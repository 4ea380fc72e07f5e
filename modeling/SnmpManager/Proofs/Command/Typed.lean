import SnmpManager.Notification
import SnmpManager.Proofs.Command.Named
import SnmpManager.Proofs.Value.Wire

/-!
# Notifications as typed

A notification is put together from parts that are read one after another, and the
first part that is wrong is what the whole fails with
(`Notification.fault?_ofTexts`).

- `fault?`: what is wrong with a part, if anything is.
- `Notification.faults`: what is wrong with each part of a notification, in the order
  in which the parts are read.
- `TypedBinding.words`: a binding as the three arguments it was typed as.
- `Literal.encodable_of_parse`: a literal can be read back if the object in it can.
-/

namespace SnmpManager

/-! ## The first fault -/

section

variable {ε α β : Type}

/-- What is wrong with a part, if anything is. -/
def fault? : Except ε α → Option ε
  | .error e => some e
  | .ok _ => none

theorem fault?_eq_some_iff {outcome : Except ε α} {e : ε} :
    fault? outcome = some e ↔ outcome = .error e := by
  cases outcome <;> simp [fault?]

/-- A step after another, where what can be wrong with it does not depend on the first: the fault of
`first` comes before `later`. -/
theorem fault?_bind {first : Except ε α} {second : α → Except ε β} {later : Option ε}
    (h : ∀ a, first = .ok a → fault? (second a) = later) :
    fault? (first >>= second) = (fault? first).or later := by
  cases first with
  | error e => rfl
  | ok a => exact h a rfl

/-- A step after which nothing can be wrong. -/
theorem fault?_bind_pure (first : Except ε α) (f : α → β) :
    fault? (first >>= fun a => pure (f a)) = fault? first := by
  cases first <;> rfl

/-- The first of some faults, in their order. -/
def firstFault (faults : List (Option ε)) : Option ε :=
  faults.findSome? id

theorem firstFault_cons (fault : Option ε) (faults : List (Option ε)) :
    firstFault (fault :: faults) = fault.or (firstFault faults) := by
  cases fault <;> rfl

/-- There is a `firstFault` exactly where there is any. -/
theorem exists_fault_iff {faults : List (Option ε)} :
    (∃ e, some e ∈ faults) ↔ ∃ e, firstFault faults = some e := by
  induction faults with
  | nil => simp [firstFault]
  | cons fault faults ih =>
    rw [firstFault_cons]
    cases fault with
    | none => simpa using ih
    | some e => exact ⟨fun _ => ⟨e, rfl⟩, fun _ => ⟨e, List.mem_cons_self⟩⟩

theorem firstFault_append (first second : List (Option ε)) :
    firstFault (first ++ second) = (firstFault first).or (firstFault second) :=
  List.findSome?_append

end

/-! ## Bindings -/

namespace TypedBinding

/-- A binding as the three arguments it was typed as. -/
def words (typed : TypedBinding) : List String :=
  [typed.oid, typed.type, typed.value]

/-- What is wrong with the parts of a binding: the object is read before the value. -/
def faults (typed : TypedBinding) : List (Option Error) :=
  [fault? (Mib.resolve typed.oid), fault? (Literal.parse typed.oid typed.type typed.value)]

/-- A binding and what was typed for it. -/
structure Means (typed : TypedBinding) (binding : VarBind) : Prop where
  oid : Mib.resolve typed.oid = .ok binding.oid
  value : Literal.parse typed.oid typed.type typed.value = .ok binding.value

theorem means_of_binding {typed : TypedBinding} {binding : VarBind}
    (h : typed.binding = .ok binding) : typed.Means binding := by
  obtain ⟨oid, resolved, h⟩ := bind_eq_ok h
  obtain ⟨value, parsed, h⟩ := bind_eq_ok h
  cases h
  exact ⟨resolved, parsed⟩

theorem exists_means {typed : List TypedBinding} {bindings : List VarBind}
    (h : List.Forall₂ Means typed bindings) :
    ∀ binding ∈ bindings, ∃ words, Means words binding := by
  induction h with
  | nil => exact fun _ mem => absurd mem List.not_mem_nil
  | cons first _ ih => exact List.forall_mem_cons.mpr ⟨⟨_, first⟩, ih⟩

/-- `binding` fails with the first of its `faults`. -/
theorem fault?_binding (typed : TypedBinding) :
    fault? typed.binding = firstFault typed.faults := by
  rw [faults, firstFault_cons, firstFault_cons]
  exact fault?_bind fun oid _ => fault?_bind fun value _ => rfl

/-- Bindings are read one after another, and so are their faults listed. -/
theorem fault?_mapM_binding (typed : List TypedBinding) :
    fault? (typed.mapM binding) = firstFault (typed.flatMap faults) := by
  induction typed with
  | nil => rfl
  | cons first rest ih =>
    rw [List.mapM_cons, List.flatMap_cons, firstFault_append, ← fault?_binding, ← ih]
    exact fault?_bind fun binding _ => fault?_bind_pure _ (binding :: ·)

/-- `triples?` takes `words` apart again. -/
theorem triples?_flatMap_words (typed : List TypedBinding) :
    triples? (typed.flatMap words) = some typed := by
  induction typed with
  | nil => rfl
  | cons first rest ih =>
    show (triples? (rest.flatMap words)).map _ = _
    rw [ih]
    rfl

/-- Arguments three by three are the `words` of some bindings. -/
theorem exists_words {args : List String} (h : args.length % 3 = 0) :
    ∃ typed : List TypedBinding, args = typed.flatMap words := by
  fun_induction triples? args with
  | case1 => exact ⟨[], rfl⟩
  | case2 oid type value rest ih =>
    simp only [List.length_cons] at h
    obtain ⟨typed, rfl⟩ := ih (by omega)
    exact ⟨⟨oid, type, value⟩ :: typed, rfl⟩
  | case3 args empty more =>
    match args, h with
    | [], _ => exact absurd rfl empty
    | [_], h => cases h
    | [_, _], h => cases h
    | oid :: type :: value :: rest, _ => exact absurd rfl (more oid type value rest)

end TypedBinding

/-! ## Notifications -/

namespace Notification

/-- A notification from its texts, in the order in which they are read. -/
def ofTexts (uptime trapOid : String) (typed : List TypedBinding) : Except Error Notification := do
  assemble (← Uptime.parse uptime) trapOid typed

/-- What is wrong with the parts of a notification, in the order in which they are read. -/
def faults (uptime trapOid : String) (typed : List TypedBinding) : List (Option Error) :=
  fault? (Uptime.parse uptime) :: fault? (Mib.resolve trapOid) ::
    typed.flatMap TypedBinding.faults

/-- The first part that is wrong is what `ofTexts` fails with. -/
theorem fault?_ofTexts (uptime trapOid : String) (typed : List TypedBinding) :
    fault? (ofTexts uptime trapOid typed) = firstFault (faults uptime trapOid typed) := by
  rw [faults, firstFault_cons, firstFault_cons, ← TypedBinding.fault?_mapM_binding]
  exact fault?_bind fun since _ => fault?_bind fun oid _ => fault?_bind_pure _ (mk since oid)

/-- Inversion of `ofTexts`: what each part of the notification was read from. -/
theorem parts_of_ofTexts {uptime trapOid : String} {typed : List TypedBinding}
    {notification : Notification} (h : ofTexts uptime trapOid typed = .ok notification) :
    Uptime.parse uptime = .ok notification.uptime ∧
      Mib.resolve trapOid = .ok notification.trapOid ∧
      List.Forall₂ TypedBinding.Means typed notification.bindings := by
  obtain ⟨since, parsed, h⟩ := bind_eq_ok h
  obtain ⟨oid, resolved, h⟩ := bind_eq_ok h
  obtain ⟨bindings, read, h⟩ := bind_eq_ok h
  cases h
  exact ⟨parsed, resolved, (forall₂_of_mapM read).imp fun _ _ => TypedBinding.means_of_binding⟩

end Notification

/-! ## Literals -/

namespace Literal

/-- A literal whose type is fixed by its letter is encodable if `make` only makes encodable
values. -/
theorem encodable_of_map {α : Type} {read : Except LiteralFault α} {value : Value}
    (make : α → Value) (plain : ∀ a, (make a).Encodable) (h : read.map make = .ok value) :
    value.Encodable := by
  cases read with
  | error fault => cases h
  | ok a =>
    cases h
    exact plain a

/-- Case by case over the kinds: all but one make plain values, and that one holds the object. -/
theorem Kind.encodable_of_parse {kind : Kind} {text : String} {value : Value}
    (h : kind.parse text = .ok value) (object : ∀ oid ∈ value.oid?, oid.Encodable) :
    value.Encodable := by
  cases kind with
  | ipAddress =>
    rw [Kind.parse] at h
    split at h
    case h_1 =>
      cases h
      trivial
    case h_2 => cases h
  -- the only literal that holds an object, and `object` is about that one
  | objectIdentifier =>
    rw [Kind.parse] at h
    split at h
    case h_1 oid _ =>
      cases h
      exact object oid rfl
    case h_2 => cases h
  | null | string =>
    cases h
    trivial
  | counter32 => exact encodable_of_map (.counter32 <| UInt32.ofInt ·) (fun _ => trivial) h
  | integer => exact encodable_of_map (.integer <| Int64.ofInt ·) (fun _ => trivial) h
  | timeTicks => exact encodable_of_map (.timeTicks <| UInt32.ofInt ·) (fun _ => trivial) h
  | hex | decimal | bits => exact encodable_of_map .octetString (fun _ => trivial) h

/-- No literal has a type of its own, so only an object in it can keep it from being `Encodable`. -/
theorem encodable_of_parse {oid type text : String} {value : Value}
    (h : parse oid type text = .ok value) (object : ∀ oid ∈ value.oid?, oid.Encodable) :
    value.Encodable := by
  rw [parse] at h
  split at h
  case h_1 => cases h
  case h_2 =>
    split at h
    case h_1 => cases h
    case h_2 kind _ =>
      split at h
      case h_1 => cases h
      case h_2 read =>
        cases h
        exact Kind.encodable_of_parse read object

end Literal

end SnmpManager
