/-!
# JSON values

A value keeps the members of an object as they stand in a text, repetitions included. `canonical`
gives each name once, its last value, in the order of names; an `Object` is a list of members that
is already so.
-/

namespace SignedToken

/-- A whole number that is written and read without loss: it fits 64 bits, signed or unsigned. -/
structure Json.Integer where
  val : Int
  least : -9223372036854775808 ≤ val
  greatest : val ≤ 18446744073709551615
deriving DecidableEq

def Json.Integer.ofInt? (n : Int) : Option Json.Integer :=
  if h : -9223372036854775808 ≤ n ∧ n ≤ 18446744073709551615 then some ⟨n, h.1, h.2⟩ else none

inductive Json where
  | null
  | bool (b : Bool)
  | int (n : Json.Integer)
  | float (x : Float)
  | str (s : String)
  | arr (items : List Json)
  | obj (members : List (String × Json))
deriving Inhabited

namespace Json

/-- A bare name: a string, or an object that has it as its only member, with the value null. -/
def bareName? : Json → Option String
  | .str s => some s
  | .obj [(s, .null)] => some s
  | _ => none

/-! ## Members in order -/

/-- Sets the value of a name; the order of names is kept. -/
def insertMember (k : String) (v : Json) : List (String × Json) → List (String × Json)
  | [] => [(k, v)]
  | (k', v') :: rest =>
    if k < k' then (k, v) :: (k', v') :: rest
    else if k = k' then (k, v) :: rest
    else (k', v') :: insertMember k v rest

/-- Adds a member unless there is one of its name; the order of names is kept. -/
def offerMember (k : String) (v : Json) : List (String × Json) → List (String × Json)
  | [] => [(k, v)]
  | (k', v') :: rest =>
    if k < k' then (k, v) :: (k', v') :: rest
    else if k = k' then (k', v') :: rest
    else (k', v') :: offerMember k v rest

/-- The names strictly ascend, so that none is there twice. -/
def Ascending (members : List (String × Json)) : Prop :=
  members.Pairwise fun m m' => m.1 < m'.1

theorem mem_insertMember {k : String} {v : Json} {members : List (String × Json)}
    {m : String × Json} (h : m ∈ insertMember k v members) : m = (k, v) ∨ m ∈ members := by
  fun_induction insertMember k v members <;> grind

theorem mem_offerMember {k : String} {v : Json} {members : List (String × Json)}
    {m : String × Json} (h : m ∈ offerMember k v members) : m = (k, v) ∨ m ∈ members := by
  fun_induction offerMember k v members <;> grind

theorem ascending_insertMember {k : String} {v : Json} {members : List (String × Json)}
    (h : Ascending members) : Ascending (insertMember k v members) := by
  fun_induction insertMember k v members with
  | case1 => simp [Ascending]
  | case2 k' v' rest hlt =>
    simp only [Ascending, List.pairwise_cons] at h ⊢
    exact ⟨by grind [String.lt_trans], h⟩
  | case3 v' rest _ =>
    simp only [Ascending, List.pairwise_cons] at h ⊢
    exact h
  | case4 k' v' rest hlt hne ih =>
    simp only [Ascending, List.pairwise_cons] at h ih ⊢
    refine ⟨fun m hm => ?_, ih h.2⟩
    rcases mem_insertMember hm with rfl | hm
    · grind
    · exact h.1 m hm

theorem ascending_offerMember {k : String} {v : Json} {members : List (String × Json)}
    (h : Ascending members) : Ascending (offerMember k v members) := by
  fun_induction offerMember k v members with
  | case1 => simp [Ascending]
  | case2 k' v' rest hlt =>
    simp only [Ascending, List.pairwise_cons] at h ⊢
    exact ⟨by grind [String.lt_trans], h⟩
  | case3 v' rest _ => exact h
  | case4 k' v' rest hlt hne ih =>
    simp only [Ascending, List.pairwise_cons] at h ih ⊢
    refine ⟨fun m hm => ?_, ih h.2⟩
    rcases mem_offerMember hm with rfl | hm
    · grind
    · exact h.1 m hm

/-! ## The canonical form -/

mutual

/-- Each object of the value has each of its names once, with the last value given to it, and its
names in order. -/
def canonical : Json → Json
  | .arr items => .arr (canonicalItems items)
  | .obj members => .obj (canonicalMembers members)
  | .null => .null
  | .bool b => .bool b
  | .int n => .int n
  | .float x => .float x
  | .str s => .str s

def canonicalItems : List Json → List Json
  | [] => []
  | v :: rest => v.canonical :: canonicalItems rest

def canonicalMembers : List (String × Json) → List (String × Json)
  | [] => []
  | (k, v) :: rest => offerMember k v.canonical (canonicalMembers rest)

end

mutual

def IsCanonical : Json → Prop
  | .arr items => ItemsCanonical items
  | .obj members => Ascending members ∧ MembersCanonical members
  | _ => True

def ItemsCanonical : List Json → Prop
  | [] => True
  | v :: rest => v.IsCanonical ∧ ItemsCanonical rest

def MembersCanonical : List (String × Json) → Prop
  | [] => True
  | (_, v) :: rest => v.IsCanonical ∧ MembersCanonical rest

end

theorem membersCanonical_iff {members : List (String × Json)} :
    MembersCanonical members ↔ ∀ m ∈ members, m.2.IsCanonical := by
  induction members with
  | nil => simp [MembersCanonical]
  | cons m rest ih => simp [MembersCanonical, ih]

mutual

theorem isCanonical_canonical : (v : Json) → v.canonical.IsCanonical
  | .arr items => itemsCanonical_canonicalItems items
  | .obj members => by
    have h := membersCanonical_canonicalMembers members
    exact ⟨h.1, membersCanonical_iff.2 h.2⟩
  | .null | .bool _ | .int _ | .float _ | .str _ => trivial

theorem itemsCanonical_canonicalItems : (items : List Json) → ItemsCanonical (canonicalItems items)
  | [] => trivial
  | v :: rest => ⟨isCanonical_canonical v, itemsCanonical_canonicalItems rest⟩

theorem membersCanonical_canonicalMembers : (members : List (String × Json)) →
    Ascending (canonicalMembers members) ∧ ∀ m ∈ canonicalMembers members, m.2.IsCanonical
  | [] => ⟨.nil, by simp [canonicalMembers]⟩
  | (k, v) :: rest => by
    have ih := membersCanonical_canonicalMembers rest
    refine ⟨ascending_offerMember ih.1, fun m hm => ?_⟩
    rcases mem_offerMember hm with rfl | hm
    · exact isCanonical_canonical v
    · exact ih.2 m hm

end

/-! ## Objects -/

structure Object where
  members : List (String × Json)
  isCanonical : (Json.obj members).IsCanonical

namespace Object

def empty : Object := ⟨[], .nil, trivial⟩

/-- The object that a list of members stands for: of one name, the last value counts. -/
def ofMembers (members : List (String × Json)) : Object :=
  ⟨canonicalMembers members, isCanonical_canonical (.obj members)⟩

def toJson (o : Object) : Json := .obj o.members

def get? (o : Object) (k : String) : Option Json := o.members.lookup k

def insert (o : Object) (k : String) (v : Json) : Object where
  members := insertMember k v.canonical o.members
  isCanonical := by
    refine ⟨ascending_insertMember o.isCanonical.1, membersCanonical_iff.2 fun m hm => ?_⟩
    rcases mem_insertMember hm with rfl | hm
    · exact isCanonical_canonical v
    · exact membersCanonical_iff.1 o.isCanonical.2 m hm

end Object

end Json

end SignedToken
