import SnmpManager.Proofs.Oid.Wire

/-!
# Object identifiers that change on the wire

Any path is written, also one outside the domain of the codec; what is read is then
another path. `Oid.onWire` is the path that is read.

- `Oid.Writable`: paths with one arc at least, and no more than can be read.
- `Oid.octets_onWire`: the path that is read has the same octets.
- `Oid.ArrivesAs`: what becomes of a path: it stays itself exactly if it is
  encodable; and a path of one arc, for which there are no octets, gets a zero after it.
-/

namespace SnmpManager

namespace Oid

/-- The paths that are written as octets that can be read, if only as another path. -/
structure Writable (oid : Oid) : Prop where
  arcs : oid.arcs ≠ []
  short : oid.length ≤ maxArcs

theorem writable_of_encodable {oid : Oid} (h : oid.Encodable) : oid.Writable := by
  obtain ⟨arcs⟩ := oid
  match arcs, h with
  | _ :: _ :: _, ⟨_, _, _, short⟩ => exact ⟨List.cons_ne_nil _ _, short⟩

/-- The path that is read where this one was written. -/
def onWire (oid : Oid) : Oid :=
  match oid.arcs with
  | [] => oid
  | [first] => ⟨splitFirst (clamp (first.toNat * 40))⟩
  | first :: second :: rest => ⟨splitFirst (joinFirst first second) ++ rest⟩

/-- What is `onWire` for a path has the octets of the one that was written. -/
theorem octets_onWire (oid : Oid) : oid.onWire.octets = oid.octets := by
  obtain ⟨arcs⟩ := oid
  match arcs with
  | [] => rfl
  | [first] =>
    -- one arc is written like two, but nothing stands in the place of the second
    have written := octets_splitFirst (clamp (first.toNat * 40)) []
    rwa [List.append_nil, List.flatMap_nil, List.append_nil] at written
  | first :: second :: rest => exact octets_splitFirst (joinFirst first second) rest

/-- Whatever `Writable` path was written, what is read is in the domain of the codec. -/
theorem encodable_onWire {oid : Oid} (h : oid.Writable) : oid.onWire.Encodable := by
  obtain ⟨arcs⟩ := oid
  match arcs, h with
  | [], h => exact absurd rfl h.arcs
  | [first], _ =>
    have encodable := splitFirst_encodable (clamp (first.toNat * 40))
      (show 2 + ([] : List UInt32).length ≤ maxArcs by decide)
    rwa [List.append_nil] at encodable
  | first :: second :: rest, ⟨_, short⟩ =>
    refine splitFirst_encodable (joinFirst first second) ?_
    rw [length, List.length_cons, List.length_cons] at short
    omega

/-- An `Encodable` path is read as itself. -/
theorem onWire_of_encodable {oid : Oid} (h : oid.Encodable) : oid.onWire = oid := by
  obtain ⟨arcs⟩ := oid
  match arcs, h with
  | first :: second :: rest, ⟨top, narrow, wide, _⟩ =>
    simp only [onWire, splitFirst_joinFirst top narrow wide, List.cons_append, List.nil_append]

/-- A path of one arc is read as its first child, since `octets` has no form of its own for it. -/
theorem onWire_singleton {arc : UInt32} (top : arc ≤ 2) : onWire ⟨[arc]⟩ = ⟨[arc, 0]⟩ := by
  have join : clamp (arc.toNat * 40) = joinFirst arc 0 := by
    have low := UInt32.le_iff_toNat_le.mp top
    simp only [UInt32.reduceToNat] at low
    rw [← UInt32.toNat_inj, toNat_joinFirst _ _ (by simp; omega), clamp, UInt32.toNat_ofNat']
    simp
    omega
  have split : splitFirst (joinFirst arc 0) = [arc, 0] :=
    splitFirst_joinFirst top (fun _ => by decide) (fun _ => by decide)
  simp only [onWire, join, split]

/-- What becomes of a path on the wire: `received` is read where `sent` was written. They are the
same exactly if the path is one that the codec can carry. -/
structure ArrivesAs (sent received : Oid) : Prop where
  exact : received = sent.onWire
  same : received = sent ↔ sent.Encodable
  child : ∀ arc ≤ 2, sent = ⟨[arc]⟩ → received = ⟨[arc, 0]⟩

/-- What a `Writable` path is read as is `onWire`. -/
theorem arrivesAs_onWire {oid : Oid} (h : oid.Writable) : oid.ArrivesAs oid.onWire where
  exact := rfl
  -- what is read is always encodable, so it is another path than one that is not
  same := ⟨fun same => same ▸ encodable_onWire h, onWire_of_encodable⟩
  child := by
    rintro arc top rfl
    exact onWire_singleton top

end Oid

end SnmpManager
