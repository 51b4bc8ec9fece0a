import Mathlib.Order.MinMax
import T1Bridge.Lib.Checked

/-! # The fading overlay

The renderer knows the overlay that is set and the one it displays.  Setting or withdrawing an
overlay starts a fade, and each advance of the clock moves the opacity towards its target.  The
displayed overlay is forgotten by the advance that ends a fade to 0, so never when the overlay is
withdrawn while its opacity is still 0: then there is no fade to end. -/

namespace T1Bridge.TouchBar

open Checked (fit)

/-- What the overlay shows. -/
inductive OverlayState where
  | enrollment | authenticate | approve | retry | success
deriving DecidableEq

/-- In nanoseconds, as all times here. -/
def overlayFadeDuration : ℕ := 150000000

/-- The part of a session that an overlay changes; of the enrollment only the progress that was
set, and not how it is drawn. -/
structure RendererSession where
  overlayState : Option OverlayState := none
  overlayVisualState : Option OverlayState := none
  overlayOpacity : ℕ := 0
  overlayStartOpacity : ℕ := 0
  overlayTargetOpacity : ℕ := 0
  overlayLastUpdate : ℕ := 0
  enrollmentProgress : Option UInt8 := none
  now : ℕ := 0

namespace RendererSession

variable (s : RendererSession)

def setOverlay (state : Option OverlayState) (progress : Option UInt8) : RendererSession :=
  if s.overlayState = state ∧ s.enrollmentProgress = progress then s
  else
    let stateChanged := s.overlayState ≠ state
    let s := { s with overlayState := state, enrollmentProgress := progress }
    if stateChanged then
      { s with
        overlayStartOpacity := s.overlayOpacity
        overlayLastUpdate := s.now
        overlayVisualState := state <|> s.overlayVisualState
        overlayTargetOpacity := if state.isSome then 255 else 0 }
    else s

/-- The part of a span that is over at `now`, rounded down. -/
def fadedSpan (now span : ℕ) : ℕ :=
  let progress := min (now - s.overlayLastUpdate) overlayFadeDuration
  (fit 8 (span * progress / overlayFadeDuration)).getD span

def fadedOpacity (now : ℕ) : ℕ :=
  if s.overlayTargetOpacity ≥ s.overlayStartOpacity then
    let span := s.overlayTargetOpacity - s.overlayStartOpacity
    min (s.overlayStartOpacity + s.fadedSpan now span) 255
  else
    let span := s.overlayStartOpacity - s.overlayTargetOpacity
    s.overlayStartOpacity - s.fadedSpan now span

def advanceOverlayFade (now : ℕ) : RendererSession :=
  if s.overlayOpacity = s.overlayTargetOpacity then s
  else
    let opacity := s.fadedOpacity now
    { s with
      overlayOpacity := opacity
      overlayVisualState :=
        if opacity = 0 ∧ s.overlayTargetOpacity = 0 then none else s.overlayVisualState }

def advance (now : ℕ) : RendererSession :=
  { s with now := now }.advanceOverlayFade now

/-- Whether a frame shows the function row. -/
def fnVisible (fnPressed : Bool) : Bool :=
  fnPressed && s.overlayVisualState.isNone

/-- A request for an overlay, or time passes. -/
inductive Input where
  | setOverlay (state : Option OverlayState) (progress : Option UInt8)
  | advance (now : ℕ)

def step : Input → RendererSession
  | .setOverlay state progress => s.setOverlay state progress
  | .advance now => s.advance now

/-- The opacity is between the start and the target of the fade. -/
def Within : Prop :=
  min s.overlayStartOpacity s.overlayTargetOpacity ≤ s.overlayOpacity ∧
    s.overlayOpacity ≤ max s.overlayStartOpacity s.overlayTargetOpacity

/-- The opacity is where it should be, also after any advance.  An advance after the duration of
the fade ends it, and what is not set is then not displayed. -/
def Fades : Prop :=
  s.Within ∧ ∀ now, (s.advance now).Within ∧ (s.overlayLastUpdate + overlayFadeDuration ≤ now →
      (s.advance now).overlayOpacity = (s.advance now).overlayTargetOpacity ∧
      ((s.advance now).overlayState = none → (s.advance now).overlayVisualState = none ∧
        ∀ fnPressed, (s.advance now).fnVisible fnPressed = fnPressed))

/-- The last overlay was withdrawn while its opacity was still 0. -/
def Unseen : RendererSession → List Input → Prop
  | _, [] => False
  | s, i :: inputs =>
    (∃ progress, i = .setOverlay none progress) ∧ s.overlayState ≠ none ∧ s.overlayOpacity = 0 ∧
        (∀ state progress, .setOverlay (some state) progress ∉ inputs) ∨
      (s.step i).Unseen inputs

/-! ### What one input does -/

/-- What holds in every session. -/
structure Tracks (s : RendererSession) : Prop where
  within : s.Within
  start : s.overlayStartOpacity ≤ 255
  target : s.overlayTargetOpacity = if s.overlayState.isSome then 255 else 0
  displayed : s.overlayState ≠ none → s.overlayVisualState ≠ none

/-- An overlay is displayed that is not set, and there is no fade to end that. -/
def Stuck : Prop :=
  s.overlayState = none ∧ s.overlayOpacity = 0 ∧ s.overlayVisualState ≠ none

variable {s}

lemma Tracks.target_le (h : Tracks s) : s.overlayTargetOpacity ≤ 255 := by
  rw [h.target]
  split_ifs <;> decide

lemma Tracks.target_unset (h : Tracks s) (hunset : s.overlayState = none) :
    s.overlayTargetOpacity = 0 := by
  rw [h.target, hunset]
  rfl

lemma fadedSpan_le (s : RendererSession) (now : ℕ) {span : ℕ} (hspan : span ≤ 255) :
    s.fadedSpan now span ≤ span ∧
      (s.overlayLastUpdate + overlayFadeDuration ≤ now → s.fadedSpan now span = span) := by
  have hle : span * min (now - s.overlayLastUpdate) overlayFadeDuration / overlayFadeDuration ≤
      span := by
    refine Nat.div_le_of_le_mul ?_
    rw [Nat.mul_comm]
    exact Nat.mul_le_mul_right _ (min_le_right _ _)
  unfold fadedSpan
  dsimp only
  rw [Checked.fit_eq (by omega), Option.getD_some]
  refine ⟨hle, fun hlate => ?_⟩
  rw [min_eq_right (Nat.le_sub_of_add_le' hlate)]
  exact Nat.mul_div_cancel _ (by decide)

lemma Tracks.fadedOpacity (h : Tracks s) (now : ℕ) :
    Within { s with overlayOpacity := s.fadedOpacity now } ∧
      (s.overlayLastUpdate + overlayFadeDuration ≤ now →
        s.fadedOpacity now = s.overlayTargetOpacity) := by
  have hstart := h.start
  have htarget := h.target_le
  unfold Within RendererSession.fadedOpacity
  dsimp only
  split_ifs with hup
  · obtain ⟨hle, hend⟩ := s.fadedSpan_le now
      (by omega : s.overlayTargetOpacity - s.overlayStartOpacity ≤ 255)
    exact ⟨by omega, fun hlate => by have := hend hlate; omega⟩
  · obtain ⟨hle, hend⟩ := s.fadedSpan_le now
      (by omega : s.overlayStartOpacity - s.overlayTargetOpacity ≤ 255)
    exact ⟨by omega, fun hlate => by have := hend hlate; omega⟩

/-- An advance keeps what holds, frees no session that is stuck, and ends a fade in time. -/
lemma Tracks.advance (h : Tracks s) (now : ℕ) :
    Tracks (s.advance now) ∧ ((s.advance now).Stuck ↔ s.Stuck) ∧
      (s.overlayLastUpdate + overlayFadeDuration ≤ now →
        (s.advance now).overlayOpacity = (s.advance now).overlayTargetOpacity) := by
  obtain ⟨hwithin, hend⟩ := h.fadedOpacity now
  unfold RendererSession.advance advanceOverlayFade
  split
  · next hended =>
    exact ⟨⟨h.within, h.start, h.target, h.displayed⟩, Iff.rfl, fun _ => hended⟩
  next hended =>
  refine ⟨⟨hwithin, h.start, h.target, fun hset => ?_⟩, iff_of_false ?_ ?_, hend⟩
  · have htarget : s.overlayTargetOpacity ≠ 0 := by
      rw [h.target, if_pos (Option.isSome_iff_ne_none.mpr hset)]
      decide
    dsimp only
    rw [if_neg fun hgone => htarget hgone.2]
    exact h.displayed hset
  · rintro ⟨hunset, hzero, hdisplayed⟩
    exact hdisplayed (if_pos ⟨hzero, h.target_unset hunset⟩)
  · rintro ⟨hunset, hzero, -⟩
    exact hended (hzero.trans (h.target_unset hunset).symm)

lemma Tracks.setOverlay (h : Tracks s) (state : Option OverlayState) (progress : Option UInt8) :
    Tracks (s.setOverlay state progress) ∧ ((s.setOverlay state progress).Stuck ↔
      state = none ∧ (s.Stuck ∨ s.overlayState ≠ none ∧ s.overlayOpacity = 0)) := by
  have hsame (heq : s.overlayState = state) :
      s.Stuck ↔ state = none ∧ (s.Stuck ∨ s.overlayState ≠ none ∧ s.overlayOpacity = 0) := by
    subst heq
    exact ⟨fun hstuck => ⟨hstuck.1, .inl hstuck⟩,
      fun ⟨hunset, hstuck⟩ => hstuck.resolve_right fun hset => hset.1 hunset⟩
  unfold RendererSession.setOverlay
  split
  · next heq => exact ⟨h, hsame heq.1⟩
  dsimp only
  split
  swap
  · next heq =>
    obtain rfl := not_not.mp heq
    exact ⟨⟨h.within, h.start, h.target, h.displayed⟩, hsame rfl⟩
  next hstate =>
  refine ⟨⟨⟨min_le_left _ _, le_max_left _ _⟩, ?_, rfl, fun hset => ?_⟩, ?_, ?_⟩
  · exact le_trans h.within.2 (max_le h.start h.target_le)
  · obtain ⟨state, rfl⟩ := Option.ne_none_iff_exists'.mp hset
    exact nofun
  · rintro ⟨rfl, hzero, -⟩
    exact ⟨rfl, .inr ⟨hstate, hzero⟩⟩
  · rintro ⟨rfl, hstuck | ⟨hset, hzero⟩⟩
    · exact (hstate hstuck.1).elim
    · exact ⟨rfl, hzero, h.displayed hset⟩

/-- A session fades as it should unless it is stuck. -/
lemma Tracks.fades_iff (h : Tracks s) : s.Fades ↔ ¬ s.Stuck := by
  constructor
  · rintro ⟨-, hfades⟩ hstuck
    obtain ⟨hunset, -, hdisplayed⟩ := (h.advance _).2.1.mpr hstuck
    exact hdisplayed (((hfades _).2 le_rfl).2 hunset).1
  refine fun hfree => ⟨h.within, fun now => ?_⟩
  obtain ⟨htracks, hstuck, hend⟩ := h.advance now
  refine ⟨htracks.within, fun hlate => ⟨hend hlate, fun hunset => ?_⟩⟩
  have hzero := (hend hlate).trans (htracks.target_unset hunset)
  have hgone : (s.advance now).overlayVisualState = none := by
    by_contra hdisplayed
    exact hfree (hstuck.mp ⟨hunset, hzero, hdisplayed⟩)
  exact ⟨hgone, fun fnPressed => by rw [fnVisible, hgone, Option.isNone_none, Bool.and_true]⟩

/-! ### Runs -/

/-- A run ends stuck where the last overlay was not seen. -/
lemma Tracks.run (h : Tracks s) (inputs : List Input) :
    Tracks (inputs.foldl step s) ∧ ((inputs.foldl step s).Stuck ↔
      s.Stuck ∧ (∀ state progress, .setOverlay (some state) progress ∉ inputs) ∨
        s.Unseen inputs) := by
  induction inputs generalizing s with
  | nil => simp [Unseen, h]
  | cons i inputs ih =>
    cases i with
    | setOverlay state progress =>
      obtain ⟨hset, hsetStuck⟩ := h.setOverlay state progress
      obtain ⟨htracks, hstuck⟩ := ih hset
      refine ⟨htracks, hstuck.trans ?_⟩
      rw [hsetStuck, Unseen, step]
      cases state with
      | none =>
        simp
        grind
      | some state =>
        simp
        exact fun _ hnot => ((hnot state progress).1 rfl rfl).elim
    | advance now =>
      obtain ⟨hadvance, hadvanceStuck, -⟩ := h.advance now
      obtain ⟨htracks, hstuck⟩ := ih hadvance
      refine ⟨htracks, hstuck.trans ?_⟩
      rw [hadvanceStuck, Unseen, step]
      simp

/-- Every run fades as it should, unless the last overlay was withdrawn unseen. -/
theorem overlay_fades_unless_withdrawn_unseen (inputs : List Input) :
    (inputs.foldl step {}).Fades ↔ ¬ Unseen {} inputs := by
  have hinit : Tracks {} := ⟨⟨le_rfl, le_rfl⟩, Nat.zero_le _, rfl, fun h => (h rfl).elim⟩
  obtain ⟨htracks, hstuck⟩ := hinit.run inputs
  rw [htracks.fades_iff, hstuck]
  exact not_congr (or_iff_right fun h => h.1.2.2 rfl)

/-- An overlay that is withdrawn before the clock advances stays on display. -/
theorem withdrawn_overlay_stays_displayed :
    let s := [Input.setOverlay (some .authenticate) none, .setOverlay none none,
      .advance (2 * overlayFadeDuration)].foldl step {}
    s.overlayState = none ∧ s.overlayVisualState = some .authenticate ∧ s.fnVisible true = false := by
  decide

end RendererSession

end T1Bridge.TouchBar
