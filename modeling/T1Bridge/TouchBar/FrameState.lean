import Mathlib.Data.List.Nodup
import T1Bridge.TouchBar.Wire

/-! # Ownership of the registered frame buffers

A client registers at most three buffers and hands one over with each submitted frame; the
buffer is its own again once exactly that frame has been released.  The state is either
`Idle`, no buffer is handed over, or it `Carries` one frame of one buffer; whether the
service keeps to these two is a matter of when it submits and releases. -/

namespace T1Bridge.TouchBar

/-- The only buffer layout the negotiated display accepts. -/
structure FrameLayout where
  width : UInt32
  height : UInt32
  stride : UInt32
  byteLength : UInt64

structure VerifiedBufferMetadata where
  stride : UInt32
  byteLength : UInt64

variable (β φ : Type)

structure ValidatedSubmission where
  bufferId : β
  frameId : φ
  damage : List DamageRectangle

inductive FrameStateError where
  | invalidLayout | invalidBufferStride | invalidBufferLength | duplicateBuffer | tooManyBuffers
  | unknownBuffer | bufferInFlight | tooManyDamageRectangles | damageOutOfBounds
  | bufferNotInFlight | frameMismatch

/-- A buffer and the frame it was handed over with. -/
structure RegisteredBuffer where
  id : β
  inFlight : Option φ

/-- The registry; no identifier is registered twice. -/
structure FrameState where
  layout : FrameLayout
  buffers : List (RegisteredBuffer β φ)
  nodup : (buffers.map RegisteredBuffer.id).Nodup

def maxRegisteredBuffers : ℕ := 3

/-- A size that overflows its type is refused. -/
def FrameLayout.new (width height : UInt32) : Except FrameStateError FrameLayout :=
  if width = 0 ∨ height = 0 then .error .invalidLayout
  else if width.toNat * 4 ≥ 2 ^ 32 then .error .invalidLayout
  else if (width * 4).toNat * height.toNat ≥ 2 ^ 64 then .error .invalidLayout
  else .ok ⟨width, height, width * 4, (width * 4).toUInt64 * height.toUInt64⟩

namespace FrameState

variable {β φ} [DecidableEq β]

def new (layout : FrameLayout) : FrameState β φ := ⟨layout, [], List.nodup_nil⟩

variable (s : FrameState β φ) (bufferId : β)

def registerBuffer (metadata : VerifiedBufferMetadata) : Except FrameStateError (FrameState β φ) :=
  if metadata.stride ≠ s.layout.stride then .error .invalidBufferStride
  else if metadata.byteLength ≠ s.layout.byteLength then .error .invalidBufferLength
  else if h : bufferId ∈ s.buffers.map RegisteredBuffer.id then .error .duplicateBuffer
  else if s.buffers.length = maxRegisteredBuffers then .error .tooManyBuffers
  else .ok ⟨s.layout, s.buffers ++ [⟨bufferId, none⟩], by
    rw [List.map_append, List.map_singleton, ← List.concat_eq_append]
    exact List.Nodup.concat h s.nodup⟩

/-- The registry with another value in the `inFlight` field of one buffer. -/
def setInFlight (inFlight : Option φ) : FrameState β φ where
  layout := s.layout
  buffers := s.buffers.map fun buffer =>
    ⟨buffer.id, if buffer.id = bufferId then inFlight else buffer.inFlight⟩
  nodup := by
    rw [List.map_map]
    exact s.nodup

/-- An empty list stands for the whole display; a sum that overflows lies outside it. -/
def validateDamage (damage : List DamageRectangle) :
    Except FrameStateError (List DamageRectangle) :=
  if damage.length > maxDamageRectangles then .error .tooManyDamageRectangles
  else if damage.isEmpty then .ok [⟨0, 0, s.layout.width, s.layout.height⟩]
  else if damage.any fun rectangle =>
      rectangle.x.toNat + rectangle.width.toNat > s.layout.width.toNat ∨
        rectangle.y.toNat + rectangle.height.toNat > s.layout.height.toNat then
    .error .damageOutOfBounds
  else .ok damage

def submitFrame (frameId : φ) (damage : List DamageRectangle) :
    Except FrameStateError (ValidatedSubmission β φ × FrameState β φ) :=
  match s.buffers.find? (·.id = bufferId) with
  | none => .error .unknownBuffer
  | some buffer =>
    if buffer.inFlight.isSome then .error .bufferInFlight
    else do
      let normalizedDamage ← s.validateDamage damage
      return (⟨buffer.id, frameId, normalizedDamage⟩, s.setInFlight bufferId (some frameId))

def releaseFrame [DecidableEq φ] (s : FrameState β φ) (bufferId : β) (frameId : φ) :
    Except FrameStateError (FrameState β φ) :=
  match s.buffers.find? (·.id = bufferId) with
  | none => .error .unknownBuffer
  | some buffer =>
    match buffer.inFlight with
    | none => .error .bufferNotInFlight
    | some inFlight =>
      if inFlight ≠ frameId then .error .frameMismatch
      else .ok (s.setInFlight bufferId none)

/-- The registered identifiers. -/
def ids : List β := s.buffers.map RegisteredBuffer.id

def inFlightCount : ℕ := s.buffers.countP (·.inFlight.isSome)

/-- No buffer is handed over. -/
def Idle : Prop := ∀ buffer ∈ s.buffers, buffer.inFlight = none

/-- One buffer is handed over, with one frame. -/
structure Carries (s : FrameState β φ) (bufferId : β) (frameId : φ) : Prop where
  registered : bufferId ∈ s.buffers.map RegisteredBuffer.id
  inFlight : ∀ buffer ∈ s.buffers,
    buffer.inFlight = if buffer.id = bufferId then some frameId else none

variable {s} {t : FrameState β φ} {bufferId} {frameId : φ} {submission : ValidatedSubmission β φ}
  {metadata : VerifiedBufferMetadata} {damage : List DamageRectangle}

lemma Idle.registerBuffer (h : s.Idle)
    (hok : s.registerBuffer bufferId metadata = .ok t) : t.Idle := by
  unfold FrameState.registerBuffer at hok
  split_ifs at hok
  cases hok
  exact List.forall_mem_append.mpr ⟨h, List.forall_mem_singleton.mpr rfl⟩

lemma Idle.submitFrame (h : s.Idle)
    (hok : s.submitFrame bufferId frameId damage = .ok (submission, t)) :
    submission.bufferId = bufferId ∧ submission.frameId = frameId ∧ t.Carries bufferId frameId := by
  unfold FrameState.submitFrame at hok
  split at hok
  · cases hok
  next buffer hfind =>
  obtain ⟨-, hok⟩ := Except.of_ite_error_ok hok
  obtain ⟨normalized, -, hok⟩ := Except.of_bind_ok hok
  cases hok
  have hid : buffer.id = bufferId := by simpa using List.find?_some hfind
  have hmem : bufferId ∈ s.buffers.map RegisteredBuffer.id :=
    hid ▸ List.mem_map_of_mem (List.mem_of_find?_eq_some hfind)
  refine ⟨hid, rfl, ?_, ?_⟩
  · simpa [setInFlight] using hmem
  intro updated hupdated
  obtain ⟨old, hold, rfl⟩ := List.mem_map.mp hupdated
  rw [h old hold]

/-- Only a buffer that is handed over is refused for it. -/
lemma Idle.submitFrame_ne (h : s.Idle) (damage : List DamageRectangle) :
    s.submitFrame bufferId frameId damage ≠ .error .bufferInFlight := by
  intro herror
  unfold FrameState.submitFrame at herror
  split at herror
  · cases herror
  next buffer hfind =>
  rw [if_neg (by simp [h buffer (List.mem_of_find?_eq_some hfind)])] at herror
  unfold FrameState.validateDamage at herror
  split_ifs at herror <;> cases herror

lemma Carries.releaseFrame [DecidableEq φ] (h : s.Carries bufferId frameId) :
    ∃ t, s.releaseFrame bufferId frameId = .ok t ∧ t.Idle := by
  refine ⟨s.setInFlight bufferId none, ?_, ?_⟩
  · unfold FrameState.releaseFrame
    cases hfind : s.buffers.find? (·.id = bufferId) with
    | none =>
      obtain ⟨buffer, hmem, hid⟩ := List.mem_map.mp h.registered
      exact absurd hid (by simpa using List.find?_eq_none.mp hfind buffer hmem)
    | some buffer =>
      have hid : buffer.id = bufferId := by simpa using List.find?_some hfind
      have hflight := h.inFlight buffer (List.mem_of_find?_eq_some hfind)
      rw [if_pos hid] at hflight
      simp [hflight]
  · intro updated hupdated
    obtain ⟨old, hold, rfl⟩ := List.mem_map.mp hupdated
    have hflight := h.inFlight old hold
    split_ifs with hid
    · rfl
    · rw [hflight, if_neg hid]

lemma registerBuffer_ok (h : s.registerBuffer bufferId metadata = .ok t) :
    metadata = ⟨s.layout.stride, s.layout.byteLength⟩ ∧ t.ids = s.ids ++ [bufferId] ∧
      s.ids.length ≠ maxRegisteredBuffers := by
  unfold registerBuffer at h
  split_ifs at h with hstride hlength hmem hfull
  cases h
  refine ⟨?_, by simp [ids], by simpa [ids] using hfull⟩
  obtain ⟨stride, byteLength⟩ := metadata
  simp_all

lemma ids_setInFlight (inFlight : Option φ) : (s.setInFlight bufferId inFlight).ids = s.ids := by
  simp [ids, setInFlight, Function.comp_def]

lemma submitFrame_ids
    (h : s.submitFrame bufferId frameId damage = .ok (submission, t)) : t.ids = s.ids := by
  unfold submitFrame at h
  split at h
  · cases h
  obtain ⟨-, h⟩ := Except.of_ite_error_ok h
  obtain ⟨normalized, -, h⟩ := Except.of_bind_ok h
  cases h
  exact ids_setInFlight _

lemma releaseFrame_ids [DecidableEq φ]
    (h : s.releaseFrame bufferId frameId = .ok t) : t.ids = s.ids := by
  unfold releaseFrame at h
  split at h
  · cases h
  split at h
  · cases h
  obtain ⟨-, h⟩ := Except.of_ite_error_ok h
  cases h
  exact ids_setInFlight _

omit [DecidableEq β] in
lemma Idle.inFlightCount (h : s.Idle) : s.inFlightCount = 0 :=
  List.countP_eq_zero.mpr fun buffer hmem => by simp [h buffer hmem]

lemma Carries.inFlightCount_le (h : s.Carries bufferId frameId) : s.inFlightCount ≤ 1 := by
  calc s.inFlightCount ≤ s.buffers.countP (·.id == bufferId) := by
        refine List.countP_mono_left fun buffer hmem hflight => ?_
        by_contra hid
        rw [h.inFlight buffer hmem, if_neg (by simpa using hid)] at hflight
        cases hflight
    _ = (s.buffers.map RegisteredBuffer.id).count bufferId := by
        rw [List.count, List.countP_map]
        rfl
    _ ≤ 1 := List.nodup_iff_count_le_one.mp s.nodup bufferId

end FrameState

end T1Bridge.TouchBar
