import Mathlib
import AsDt1.Lib.Octets

/-!
# YAML nodes

Documents as graphs of nodes, since an alias may give a node two parents or make it
its own descendant, and the accesses of a reader in the manner of yaml-cpp: a
missing member is an undefined node (`none`), a member of a scalar is an exception,
and conversions may fail. Which scalars convert is a parameter.
-/
namespace AsDt1.Lib

inductive YamlContent (N : Type) where
  | null
  | scalar (text : String)
  | sequence (items : List N)
  | map (pairs : List (N × N))

inductive YamlException where
  | invalidNode
  | badSubscript
  | badConversion
  /-- Thrown by the code that reads the document. -/
  | runtimeError (what : String)
  deriving DecidableEq, Repr

structure YamlReader (N F : Type) where
  content : N → YamlContent N
  /-- `as<std::string>()`; `none` is the exception of a conversion. -/
  asString : N → Option String
  /-- `as<float>()` -/
  asNumber : N → Option F

variable {α N F : Type}

/-- `for (i = 0; i < n; ++i) a[i] = f(i)` -/
def forFin : {n : Nat} → (Fin n → Except YamlException α) → Except YamlException (Fin n → α)
  | 0, _ => .ok Fin.elim0
  | _ + 1, f => do
    let first ← f 0
    let rest ← forFin fun i => f i.succ
    return Fin.cons first rest

namespace YamlReader

variable (yaml : YamlReader N F)

def isKey (key : String) (node : N) : Bool :=
  match yaml.content node with
  | .scalar text => text = key
  | _ => false

/-- The value of the first pair with this key. -/
def member? (node : N) (key : String) : Option N :=
  match yaml.content node with
  | .map pairs => (pairs.find? fun pair => yaml.isKey key pair.1).map Prod.snd
  | _ => none

/-- `node[key]` -/
def subscript (node : Option N) (key : String) : Except YamlException (Option N) :=
  match node with
  | none => .error .invalidNode
  | some node =>
    match yaml.content node with
    | .scalar _ => .error .badSubscript
    | _ => .ok (yaml.member? node key)

/-- `node[i]` of a node that is known to be a sequence -/
def element (node : Option N) (i : Nat) : Except YamlException (Option N) :=
  match node with
  | none => .error .invalidNode
  | some node =>
    match yaml.content node with
    | .sequence items => .ok items[i]?
    | .scalar _ => .error .badSubscript
    | _ => .ok none

/-- `node.IsSequence()` -/
def isSequence (node : Option N) : Except YamlException Bool :=
  match node with
  | none => .error .invalidNode
  | some node =>
    match yaml.content node with
    | .sequence _ => .ok true
    | _ => .ok false

/-- `node.size()` -/
def size (node : Option N) : Nat :=
  match node.map yaml.content with
  | some (.sequence items) => items.length
  | some (.map pairs) => pairs.length
  | _ => 0

/-- `node.as<std::string>()` -/
def text (node : Option N) : Except YamlException String :=
  match node with
  | none => .error .invalidNode
  | some node =>
    match yaml.asString node with
    | some text => .ok text
    | none => .error .badConversion

/-- `node.as<float>()` -/
def number (node : Option N) : Except YamlException F :=
  match node with
  | none => .error .invalidNode
  | some node =>
    match yaml.asNumber node with
    | some value => .ok value
    | none => .error .badConversion

/-- A member that is read if it is there, over a value that is there already. -/
def optionalText (kept : String) (node : Option N) : Except YamlException String :=
  match node with
  | none => .ok kept
  | some node => yaml.text (some node)

/-- A sequence of `count` nodes, each read in the same way. -/
def readTuple (count : Nat) (what : String) (read : Option N → Except YamlException α) (node : Option N) :
    Except YamlException (Fin count → α) := do
  let sequence ← yaml.isSequence node
  if !sequence || yaml.size node != count then throw (.runtimeError what)
  else forFin fun i => do
    let item ← yaml.element node i
    read item

/-! ## What an access that succeeds has found -/

/-- The node is a sequence of exactly these nodes. -/
def IsTuple {count : Nat} (node : N) (items : Fin count → N) : Prop :=
  yaml.content node = .sequence (List.ofFn items)

def IsScalar (node : N) : Prop := ∃ text, yaml.content node = .scalar text

variable {yaml} {node child : N} {key : String}

theorem member?_scalar (scalar : yaml.IsScalar node) : yaml.member? node key = none := by
  obtain ⟨text, scalar⟩ := scalar
  simp [member?, scalar]

theorem not_scalar_of_member (found : yaml.member? node key = some child) : ¬ yaml.IsScalar node := by
  intro scalar
  rw [member?_scalar scalar] at found
  cases found

theorem subscript_ok (plain : ¬ yaml.IsScalar node) (key : String) :
    yaml.subscript (some node) key = .ok (yaml.member? node key) := by
  unfold subscript
  split
  · next absent => cases absent
  · next other same =>
    obtain rfl := Option.some.inj same
    split
    · next text scalar => exact absurd ⟨text, scalar⟩ plain
    · rfl

theorem subscript_throws (scalar : yaml.IsScalar node) (key : String) :
    yaml.subscript (some node) key = .error .badSubscript := by
  obtain ⟨text, scalar⟩ := scalar
  simp [subscript, scalar]

theorem subscript_eq_ok_iff {found : Option N} :
    yaml.subscript (some node) key = .ok found ↔ ¬ yaml.IsScalar node ∧ yaml.member? node key = found := by
  by_cases scalar : yaml.IsScalar node
  · rw [subscript_throws scalar]
    simp [scalar]
  · rw [subscript_ok scalar]
    simp [scalar]

theorem text_eq_ok_iff {text : String} : yaml.text (some node) = .ok text ↔ yaml.asString node = some text := by
  cases converts : yaml.asString node with
  | none => simp [YamlReader.text, converts]
  | some value => simp [YamlReader.text, converts]

theorem number_eq_ok_iff {value : F} : yaml.number (some node) = .ok value ↔ yaml.asNumber node = some value := by
  cases converts : yaml.asNumber node with
  | none => simp [YamlReader.number, converts]
  | some value => simp [YamlReader.number, converts]

theorem forFin_eq_ok_iff {n : Nat} {f : Fin n → Except YamlException α} {values : Fin n → α} :
    forFin f = .ok values ↔ ∀ i, f i = .ok (values i) := by
  induction n with
  | zero =>
    refine ⟨fun _ i => i.elim0, fun _ => ?_⟩
    change Except.ok Fin.elim0 = Except.ok values
    apply congrArg
    funext i
    exact i.elim0
  | succ n ih =>
    constructor
    · intro ends
      obtain ⟨first, head, ends⟩ := bind_eq_ok ends
      obtain ⟨rest, tail, ends⟩ := bind_eq_ok ends
      obtain rfl : Fin.cons first rest = values := Except.ok.inj ends
      intro i
      cases i using Fin.cases with
      | zero => exact head
      | succ i => exact ih.mp tail i
    · intro each
      have tail : forFin (fun i => f i.succ) = .ok (fun i => values i.succ) := ih.mpr fun i => each i.succ
      unfold forFin
      rw [each 0, ok_bind, tail, ok_bind]
      exact congrArg Except.ok (Fin.cons_self_tail values)

theorem readTuple_eq_ok_iff {count : Nat} {what : String} {read : Option N → Except YamlException α}
    {values : Fin count → α} :
    yaml.readTuple count what read (some node) = .ok values ↔
      ∃ items, yaml.IsTuple node items ∧ ∀ i, read (some (items i)) = .ok (values i) := by
  cases content : yaml.content node with
  | sequence nodes =>
    have sequence : yaml.isSequence (some node) = .ok true := by simp [isSequence, content]
    have sized : yaml.size (some node) = nodes.length := by simp [size, content]
    unfold readTuple
    rw [sequence, ok_bind, sized]
    by_cases length : nodes.length = count
    · subst length
      have items : ∀ i : Fin nodes.length, yaml.element (some node) i = .ok (some (nodes.get i)) := by
        intro i
        simp [element, content]
      have tuple : ∀ other : Fin nodes.length → N, yaml.IsTuple node other ↔ other = nodes.get := by
        intro other
        unfold IsTuple
        rw [content, YamlContent.sequence.injEq]
        constructor
        · intro same
          exact List.ofFn_injective (same.symm.trans (List.ofFn_get nodes).symm)
        · rintro rfl
          exact (List.ofFn_get nodes).symm
      simp only [items, ok_bind, tuple, exists_eq_left]
      simpa using forFin_eq_ok_iff
    · have none : ∀ items : Fin count → N, ¬ yaml.IsTuple node items := by
        intro items tuple
        obtain rfl := YamlContent.sequence.inj (content.symm.trans tuple)
        exact length (List.length_ofFn)
      simp [length, none]
  | null | scalar | map =>
    have none : ∀ items : Fin count → N, ¬ yaml.IsTuple node items := by
      intro items tuple
      cases content.symm.trans tuple
    have sequence : yaml.isSequence (some node) = .ok false := by simp [isSequence, content]
    unfold readTuple
    rw [sequence, ok_bind]
    simp [none]

end YamlReader
end AsDt1.Lib
