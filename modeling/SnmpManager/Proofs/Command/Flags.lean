import SnmpManager.Command.Line

/-!
# What flags can choose

- `Invocation.applyAll_preserves`: what each flag string preserves, all of them do.
- `Settings.bulk_of_readFlags`: no flag makes a walk go in bulk.
-/

namespace SnmpManager

namespace Settings

/-- `setFlag` turns options of a walk on and off, none of which is `bulk`. -/
theorem bulk_of_setFlag (settings : Settings) (flag : Char) :
    (settings.setFlag flag).request.walk.bulk = settings.request.walk.bulk := by
  unfold setFlag
  dsimp only
  split <;> rfl

/-- An open count that is closed goes into `bulk` of the request, not into its `walk`. -/
theorem walk_of_close {settings after : Settings} {waiting : OpenCount}
    (h : settings.close waiting = .ok after) : after.request.walk = settings.request.walk := by
  unfold close at h
  split at h
  case h_1 =>
    cases h
    rfl
  case h_2 =>
    split at h
    case h_1 => cases h
    case h_2 =>
      cases h
      unfold setCount
      dsimp only
      split <;> rfl

/-- No flag makes a walk go in bulk, whatever `readFlags` makes of the string; that is for the
command to say. -/
theorem bulk_of_readFlags (command : Command) (settings : Settings) (waiting : OpenCount)
    (flags : List Char) :
    (readFlags command settings waiting flags).2.request.walk.bulk
      = settings.request.walk.bulk := by
  induction flags generalizing settings waiting with
  | nil =>
    rw [readFlags]
    split
    case h_1 => rfl
    case h_2 after closed => rw [walk_of_close closed]
  | cons flag rest ih =>
    rw [readFlags]
    split
    case isTrue => exact ih _ _
    case isFalse =>
      split
      case h_1 => rfl
      case h_2 after closed =>
        rw [← walk_of_close closed]
        split
        case isTrue => rfl
        case isFalse =>
          split
          case isTrue => rfl
          case isFalse =>
            split
            case isTrue => exact ih _ _
            case isFalse => rw [ih, bulk_of_setFlag]

end Settings

/-- The step lemma of `applyAll` made a run lemma: what `apply` preserves for each string, all the
strings do, up to the one that is rejected. -/
theorem Invocation.applyAll_preserves {ρ : Type}
    {apply : ρ → List Char → Except UsageFault Unit × ρ} (kept : ρ → Prop)
    (step : ∀ settings flags, kept settings → kept (apply settings flags).2)
    {settings after : ρ} {strings : List String} (h : kept settings)
    (applied : applyAll apply settings strings = .ok after) : kept after := by
  induction strings generalizing settings with
  | nil =>
    cases applied
    exact h
  | cons flags rest ih =>
    have next := step settings flags.toList h
    rw [applyAll] at applied
    split at applied
    case h_1 => cases applied
    case h_2 between read =>
      rw [read] at next
      exact ih next applied

end SnmpManager
