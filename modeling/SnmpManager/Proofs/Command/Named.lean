import Mathlib.Data.List.Forall2
import SnmpManager.Command.Config
import SnmpManager.Proofs.Mib.Spellings
import SnmpManager.Proofs.Oid.OnWire

/-!
# The objects a user names

Whatever text is accepted as an object denotes a path that can be written
(`Mib.writable_of_resolve`), and an accepted invocation is about the objects its
texts denote (`Config.make_target`).

- `Config.namedTexts`: the texts that name objects among the arguments.
- `Denote`: texts and the objects they denote, in order.
-/

namespace SnmpManager

/-- Inversion of a bind: the first of two steps succeeded, and the second with what it gave. -/
theorem bind_eq_ok {ε α β : Type} {first : Except ε α} {second : α → Except ε β} {b : β}
    (h : first >>= second = .ok b) : ∃ a, first = .ok a ∧ second a = .ok b := by
  cases first with
  | error e => cases h
  | ok a => exact ⟨a, rfl, h⟩

/-- Inversion of `mapM`: a step that may fail was done with each element in turn, and succeeded. -/
theorem forall₂_of_mapM {ε α β : Type} {f : α → Except ε β} {as : List α} {bs : List β}
    (h : as.mapM f = .ok bs) : List.Forall₂ (fun a b => f a = .ok b) as bs := by
  induction as generalizing bs with
  | nil =>
    cases h
    exact .nil
  | cons a as ih =>
    rw [List.mapM_cons] at h
    obtain ⟨b, first, h⟩ := bind_eq_ok h
    obtain ⟨others, rest, h⟩ := bind_eq_ok h
    cases h
    exact .cons first (ih rest)

/-! ## Texts that denote objects -/

namespace Mib

theorem writable_nodes : ∀ node ∈ nodes, node.arcs ≠ [] ∧ node.arcs.length ≤ Oid.maxArcs := by
  decide

section

variable {text : List Char} {arcs : List UInt32}

/-- What `Spells` an object is short enough: a name is that of a node, and the arcs behind it are
counted with those of the node. -/
theorem Spells.writable (h : Spells text arcs) : Oid.Writable ⟨arcs⟩ := by
  cases h with
  | dotted numbers short => exact ⟨numbers.ne_nil, short⟩
  | led numbers short => exact ⟨numbers.ne_nil, short⟩
  | @name node _ named =>
    obtain ⟨some, short⟩ := writable_nodes node named.1
    exact ⟨some, short⟩
  | @suffixed node _ _ _ named _ short =>
    obtain ⟨some, -⟩ := writable_nodes node named.1
    exact ⟨List.append_ne_nil_of_left_ne_nil some _, short⟩

theorem DottedTwice.writable (h : DottedTwice text arcs) : Oid.Writable ⟨arcs⟩ := by
  obtain @⟨node, _, _, _, named, _, short⟩ := h
  obtain ⟨some, -⟩ := writable_nodes node named.1
  exact ⟨List.append_ne_nil_of_left_ne_nil some _, short⟩

end

/-- What `resolve` yields is `Writable`, in either of the spellings it accepts. -/
theorem writable_of_resolve {text : String} {oid : Oid} (h : resolve text = .ok oid) :
    oid.Writable := by
  rw [← String.ofList_toList (s := text)] at h
  rcases spells_or_dottedTwice_of_resolve h with spells | twice
  · exact spells.writable
  · exact twice.writable

end Mib

/-- Texts and the objects they denote, in order. -/
def Denote (texts : List String) (oids : List Oid) : Prop :=
  List.Forall₂ (fun text oid => Mib.resolve text = .ok oid) texts oids

theorem denote_of_mapM {texts : List String} {oids : List Oid}
    (h : texts.mapM Mib.resolve = .ok oids) : Denote texts oids :=
  forall₂_of_mapM h

/-- Texts denote one list of objects, since `resolve` is a function. -/
theorem Denote.unique {texts : List String} {oids oids' : List Oid} (h : Denote texts oids)
    (h' : Denote texts oids') : oids = oids' := by
  induction h generalizing oids' with
  | nil => exact (List.forall₂_nil_left_iff.mp h').symm
  | cons first _ ih =>
    obtain ⟨oid, others, same, rest, rfl⟩ := List.forall₂_cons_left_iff.mp h'
    rw [same] at first
    cases first
    rw [ih rest]

theorem Denote.writable {texts : List String} {oids : List Oid} (h : Denote texts oids) :
    ∀ oid ∈ oids, oid.Writable := by
  induction h with
  | nil => exact fun _ mem => absurd mem List.not_mem_nil
  | cons first _ ih => exact List.forall_mem_cons.mpr ⟨Mib.writable_of_resolve first, ih⟩

/-! ## Accepted invocations -/

namespace Config

/-- The commands that ask once about some objects. -/
def asking : List Command :=
  [.get, .getNext, .bulkGet]

/-- The commands that walk a subtree. -/
def walking : List Command :=
  [.walk, .bulkWalk]

/-- The texts that name objects among the arguments: those after the agent, which comes after the
end of the walk, if that is an argument. A walk without any is about `defaultRoot`. -/
def namedTexts (command : Command) (endOid : Option EndOid) (args : List String) : List String :=
  let positional := if endOid = some .nextArgument then args.tail else args
  if command ∈ walking ∧ positional.tail = [] then [defaultRoot] else positional.tail

/-- `takeEnd` removes an argument exactly where the end of the walk is the next one. -/
theorem args_of_takeEnd {endOid : Option EndOid} {args rest : List String} {bound : Option Oid}
    (h : takeEnd endOid args = .ok (bound, rest)) :
    rest = if endOid = some .nextArgument then args.tail else args := by
  match endOid, args, h with
  | none, args, h =>
    cases h
    rfl
  | some (.inline text), args, h =>
    rw [takeEnd] at h
    cases resolved : Mib.resolve text <;> rw [resolved] at h <;> cases h
    rfl
  | some .nextArgument, text :: args, h =>
    rw [takeEnd] at h
    cases resolved : Mib.resolve text <;> rw [resolved] at h <;> cases h
    rfl

/-- The objects of an `asking` command are what the arguments after the agent denote. -/
theorem objects_of_readTarget {command : Command} {args : List String} {agent : Option String}
    {target : Target} (asks : command ∈ asking)
    (h : readTarget command args = .ok (agent, target)) :
    ∃ oids, target = .objects oids ∧ Denote args.tail oids := by
  -- the three commands read their arguments alike
  have once : readTarget command args = readTarget .get args := by
    simp only [asking, List.mem_cons, List.not_mem_nil, or_false] at asks
    obtain rfl | rfl | rfl := asks <;> rfl
  rw [once] at h
  match args, h with
  | name :: first :: more, h =>
    obtain ⟨oids, resolved, h⟩ := bind_eq_ok h
    cases h
    exact ⟨oids, rfl, denote_of_mapM resolved⟩

/-- The root of a `walking` command is what the argument after the agent denotes, or
`defaultRoot`. -/
theorem subtree_of_readTarget {command : Command} {args : List String} {agent : Option String}
    {target : Target} (walks : command ∈ walking)
    (h : readTarget command args = .ok (agent, target)) :
    ∃ root, target = .subtree root ∧
      Denote (if args.tail = [] then [defaultRoot] else args.tail) [root] := by
  have walk : readTarget command args = readTarget .walk args := by
    simp only [walking, List.mem_cons, List.not_mem_nil, or_false] at walks
    obtain rfl | rfl := walks <;> rfl
  rw [walk] at h
  match args, h with
  | [name], h =>
    obtain ⟨root, resolved, h⟩ := bind_eq_ok h
    cases h
    exact ⟨root, rfl, .cons resolved .nil⟩
  | [name, text], h =>
    obtain ⟨root, resolved, h⟩ := bind_eq_ok h
    cases h
    exact ⟨root, rfl, .cons resolved .nil⟩

/-- What version 1 cannot carry passes `checkVersion` over the later version only. -/
theorem v2c_of_checkVersion {command : Command} {version : Version}
    (needs : command = .bulkGet ∨ command = .bulkWalk ∨ command = .trap)
    (h : checkVersion command version = .ok ()) : version = .v2c := by
  cases version with
  | v2c => rfl
  | v1 => obtain rfl | rfl | rfl := needs <;> cases h

/-- What an accepted invocation is about: `make` keeps command and session, and its target is what
`namedTexts` denote. -/
theorem make_target {command : Command} {session : SessionSettings} {settings : Settings}
    {args : List String} {config : Config}
    (made : make command session settings args = .ok config) :
    config.command = command ∧ config.session = session ∧
      (command ∈ asking → ∃ oids, config.target = .objects oids ∧
        Denote (namedTexts command settings.request.endOid args) oids) ∧
      (command ∈ walking → ∃ root, config.target = .subtree root ∧
        Denote (namedTexts command settings.request.endOid args) [root]) := by
  -- the version is checked first, then the end of the walk is taken, then the target is read
  obtain ⟨_, -, made⟩ := bind_eq_ok made
  obtain ⟨⟨bound, rest⟩, taken, made⟩ := bind_eq_ok made
  obtain ⟨⟨agent, target⟩, read, made⟩ := bind_eq_ok made
  cases made
  refine ⟨rfl, rfl, fun asks => ?_, fun walks => ?_⟩
  · have notWalking : command ∉ walking := by
      revert asks
      cases command <;> decide
    simp only [namedTexts, ← args_of_takeEnd taken, notWalking, false_and, if_false]
    exact objects_of_readTarget asks read
  · simp only [namedTexts, ← args_of_takeEnd taken, walks, true_and]
    exact subtree_of_readTarget walks read

end Config

end SnmpManager
