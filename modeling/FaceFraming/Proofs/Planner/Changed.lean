import FaceFraming.Proofs.Planner.Run

/-!
# When a plan reports a change

Each plan returns a crop and whether it `changed`. The flag says that the crop was recomputed for
this frame. A target in `normal`, and every frame of `panAndTilt` and of `zoomOut`, place the crop
afresh. The other calls (no target in `normal`, any call in `zoomIn`) hand back the last crop
(`plan_recomputes_or_keeps`). So a crop that differs from the last one is always reported, and a
caller that applies crops only when told misses none (`plan_changed`).

The converse does not hold. A recomputed crop can come out equal to the last one and is still
reported as changed. A target as large as the frame asks for a zoom of one, so each plan for it
places the whole frame again (`plan_frame_sized_target_reports_same_crop`); so do the first levels
of a long zoom curve, which trim less than half a pixel, and a pan frame whose share of the move
rounds to nothing.
-/

namespace FaceFraming

namespace Planner

/-- The calls that recompute the crop: a target in `normal`, and any call in `panAndTilt` or in
`zoomOut`. -/
def Recomputes (p : Planner) (t : Option Target) : Prop :=
  p.phase = .normal ∧ t.isSome = true ∨ p.phase = .panAndTilt ∨ p.phase = .zoomOut

instance decidableRecomputes (p : Planner) (t : Option Target) : Decidable (p.Recomputes t) :=
  inferInstanceAs (Decidable (_ ∨ _))

/-- A plan either recomputes the crop and reports it changed, or hands back the last crop and
reports it unchanged. -/
theorem plan_recomputes_or_keeps (p : Planner) (t : Option Target) :
    p.Recomputes t ∧ (p.plan t).1.changed = true ∨
      ¬p.Recomputes t ∧ (p.plan t).1 = ⟨p.crop, false⟩ := by
  unfold plan Recomputes
  split
  · next hphase =>
    cases t with
    | none =>
      refine .inr ⟨by simp [hphase], ?_⟩
      rcases Nat.eq_zero_or_pos p.zoomLevel with h | h
      · rw [planNormal_none_of_zero p h]
      · rw [planNormal_none_of_pos p h]
    | some t => exact .inl ⟨by simp [hphase], by rw [planNormal_some]⟩
  · next hphase =>
    refine .inr ⟨by simp [hphase], ?_⟩
    cases t with
    | none => rw [planZoomIn_none]
    | some t =>
      by_cases h : t.center = p.center
      · rw [planZoomIn_of_eq p h]
      · rw [planZoomIn_of_ne p h]
  · next hphase => exact .inl ⟨by simp [hphase], by rw [planPan_eq]⟩
  · next hphase => exact .inl ⟨by simp [hphase], by rw [planZoomOut_eq]⟩

/-- Planning reports the crop as changed exactly when it recomputes it, so a crop that differs from
the planner's last one is always reported as changed. -/
theorem plan_changed (p : Planner) (t : Option Target) :
    ((p.plan t).1.changed = true ↔ p.Recomputes t) ∧
      ((p.plan t).1.crop ≠ p.crop → (p.plan t).1.changed = true) := by
  rcases plan_recomputes_or_keeps p t with ⟨hr, hc⟩ | ⟨hr, hd⟩
  · exact ⟨iff_of_true hc hr, fun _ => hc⟩
  · rw [hd]
    exact ⟨iff_of_false Bool.false_ne_true hr, fun h => absurd rfl h⟩

/-- The default planner for 640×480, given a target as large as the frame, recomputes the crop as
the whole frame, which is the crop it already has, and reports it as changed. -/
theorem plan_frame_sized_target_reports_same_crop :
    ∃ p, Planner.create {} 640 480 = .ok p ∧ Reachable {} p ∧ p.crop = Crop.identity ∧
      (p.plan (some ⟨⟨320, 240⟩, 640, 480⟩)).1 = ⟨Crop.identity, true⟩ :=
  ⟨_, rfl, @Reachable.create _ 640 480 _ rfl, rfl, by decide +kernel⟩

end Planner

end FaceFraming
