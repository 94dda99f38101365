import SignedToken.Claims.Body
import SignedToken.Inspect
import SignedToken.Main
import SignedToken.Proofs.Draft.Defaults
import SignedToken.Proofs.Draft.Lifetime
import SignedToken.Proofs.Service.Availability
import SignedToken.Proofs.Service.Draws
import SignedToken.Proofs.Service.Expiry
import SignedToken.Proofs.Service.RoundTrip
import SignedToken.Proofs.Service.Separation
import SignedToken.Proofs.Service.Unexpiring
import SignedToken.Proofs.Token.Expectations
import SignedToken.Proofs.Token.Legibility
import SignedToken.Proofs.Token.Meaning
import SignedToken.Proofs.Token.Message
import SignedToken.Proofs.Token.Misshapen
import SignedToken.Proofs.Token.Strictness
import SignedToken.Proofs.Token.Replacement
import SignedToken.Proofs.Token.Segment
import SignedToken.Proofs.Claims.Grammar
import SignedToken.Proofs.Claims.Normal
import SignedToken.Proofs.Config.Variables
