import T1Bridge.Wire.PlistRoundTrip
import T1Bridge.Xart.Session

/-! # The record over the life of the service

`Served` is the grammar of everything the service receives and sends, over any number of
connections and restarts, and `History` is a life of the service.  `record_is_kept` says what a
fetch can answer in it: never a record older than the last acknowledged one. -/

namespace T1Bridge.Xart

open FileSystem Wire
open Prog (advance wp wp_bind wp_mono)

variable {safe : World → XartOp → Prop} {response : Response} {reads : Prop}
  {decode : Packet → Except PlistError Value} {validatePeerHello : Packet → Except HelloError Unit}
  {store : XartStore} {initial : Option Packet} {root : Ref} {request : Value} {w : World}

/-! ### What the peer sees -/

/-- A request and the response that was sent. -/
abbrev Exchange := Value × Option Response

variable {exchanges : List Exchange}

/-- Where a connection is. -/
inductive Phase where
  | idle | greeted | serving | asked

variable (decode validatePeerHello)

/-- The exchanges of a log.  Between a request and its response nothing is received or sent; a
request stays without one only when the service dies or the transport fails there. -/
inductive Served : Phase → List Happening → List Exchange → Prop
  | start : Served .idle [] []
  | restarted {phase : Phase} {log : List Happening} {exchanges : List Exchange} :
      Served phase log exchanges → Served .idle (log ++ [.restarted]) exchanges
  | greeted {log : List Happening} {exchanges : List Exchange} : Served .idle log exchanges →
      Served .greeted (log ++ [.sent serverHello (.ok ())]) exchanges
  | ungreeted {log : List Happening} {exchanges : List Exchange} (error : TransportError) :
      Served .idle log exchanges →
      Served .idle (log ++ [.sent serverHello (.error error)]) exchanges
  | welcomed {log : List Happening} {exchanges : List Exchange} {frame : Frame} :
      Served .greeted log exchanges → checkPeerHello validatePeerHello frame = .ok () →
      Served .serving (log ++ [.received (.ok frame)]) exchanges
  | unwelcome {log : List Happening} {exchanges : List Exchange} {frame : Frame}
      {error : XartSessionError} : Served .greeted log exchanges →
      checkPeerHello validatePeerHello frame = .error error →
      Served .idle (log ++ [.received (.ok frame)]) exchanges
  | lost {phase : Phase} {log : List Happening} {exchanges : List Exchange}
      (error : TransportError) : phase = .greeted ∨ phase = .serving → Served phase log exchanges →
      Served .idle (log ++ [.received (.error error)]) exchanges
  | ignored {log : List Happening} {exchanges : List Exchange} {frame : Frame} :
      Served .serving log exchanges → frame.messageType ≠ frameBinaryPlist →
      Served .serving (log ++ [.received (.ok frame)]) exchanges
  | undecoded {log : List Happening} {exchanges : List Exchange} {frame : Frame}
      {error : PlistError} : Served .serving log exchanges →
      frame.messageType = frameBinaryPlist → decode frame.body = .error error →
      Served .idle (log ++ [.received (.ok frame)]) exchanges
  | asked {log : List Happening} {exchanges : List Exchange} {frame : Frame} {request : Value} :
      Served .serving log exchanges →
      frame.messageType = frameBinaryPlist → decode frame.body = .ok request →
      Served .asked (log ++ [.received (.ok frame)]) (exchanges ++ [(request, none)])
  | answered {log : List Happening} {exchanges : List Exchange} {request : Value}
      {response : Response} {frame : Frame} : Served .asked log (exchanges ++ [(request, none)]) →
      responseFrame response = .ok frame → Served .serving (log ++ [.sent frame (.ok ())])
        (exchanges ++ [(request, some response)])
  | unsent {log : List Happening} {exchanges : List Exchange} {frame : Frame}
      (error : TransportError) : Served .asked log exchanges →
      Served .idle (log ++ [.sent frame (.error error)]) exchanges

variable {decode validatePeerHello}

/-- The payload a request tries to save. -/
def attemptedPayload (request : Value) : Option Packet :=
  match requestOf request with
  | .ok (.save (some (.data wireBlob))) => (validateWireBlob wireBlob).toOption
  | _ => none

/-- The response reports success. -/
def isSuccess (response : Response) : Bool :=
  match response.lookup successKey with
  | some (.boolean value) => value
  | _ => false

/-- The attempts to save, each with whether it was acknowledged.  A record that was there before
counts as acknowledged. -/
def saves (initial : Option Packet) (exchanges : List Exchange) : List (Packet × Bool) :=
  (initial.map fun payload => (payload, true)).toList ++ exchanges.filterMap fun exchange =>
      (attemptedPayload exchange.1).map fun payload => (payload, exchange.2.any isSuccess)

/-- The records that are not older than the last acknowledged one. -/
def allowedBy (attempts : List (Packet × Bool)) : Allowed
  | none => ∀ attempt ∈ attempts, attempt.2 = false
  | some payload => ∃ before acknowledged after,
      attempts = before ++ (payload, acknowledged) :: after ∧ ∀ attempt ∈ after, attempt.2 = false

/-- The answer to a fetch is a record that is not older than the last acknowledged save before
it; and a record is not called invalid, as long as reads succeed. -/
def Truth (reads : Prop) (store : XartStore) (attempts : List (Packet × Bool))
    (exchange : Exchange) : Prop :=
  requestOf exchange.1 = .ok .fetch → ∀ response, exchange.2 = some response →
    (isSuccess response = true → ∃ v, allowedBy attempts v ∧ response = fetchedResponse
        ⟨wireBlob (v.getD []), store.volumeId, store.volumeExternal⟩) ∧
    (reads → response ≠ storageFailure .invalidStoredBlob)

/-- Every fetch that succeeds returns what the saves before it admit. -/
def Truthful (reads : Prop) (store : XartStore) (initial : Option Packet)
    (exchanges : List Exchange) : Prop :=
  ∀ before exchange after, exchanges = before ++ exchange :: after →
    Truth reads store (saves initial before) exchange

/-! ### Attempts and what they admit -/

section Attempts

lemma append_singleton_eq {α : Type} {xs before after : List α} {x y : α}
    (h : xs ++ [x] = before ++ y :: after) : (after = [] ∧ xs = before ∧ x = y) ∨
      ∃ rest, after = rest ++ [x] ∧ xs = before ++ y :: rest := by
  rcases List.eq_nil_or_concat after with rfl | ⟨rest, last, rfl⟩
  · obtain ⟨hxs, hx⟩ := List.append_inj' h rfl
    exact .inl ⟨rfl, hxs, List.singleton_inj.mp hx⟩
  rw [List.concat_eq_append] at h ⊢
  rw [← List.cons_append, ← List.append_assoc] at h
  obtain ⟨hxs, hx⟩ := List.append_inj' h rfl
  rw [List.singleton_inj.mp hx]
  exact .inr ⟨rest, rfl, hxs⟩

lemma allowedBy_failed (attempts : List (Packet × Bool)) (payload : Packet) :
    allowedBy (attempts ++ [(payload, false)]) = (allowedBy attempts).add payload := by
  funext v
  refine propext ⟨?_, ?_⟩
  · cases v with
    | none => exact fun h => .inl fun x hx => h x (List.mem_append_left _ hx)
    | some p =>
      rintro ⟨before, a, after, heq, hafter⟩
      rcases append_singleton_eq heq with ⟨-, -, hlast⟩ | ⟨rest, rfl, hattempts⟩
      · cases hlast
        exact .inr rfl
      · exact .inl ⟨before, a, rest, hattempts, fun x hx => hafter x (List.mem_append_left _ hx)⟩
  · have hlast : ∀ {xs : List (Packet × Bool)}, (∀ x ∈ xs, x.2 = false) →
        ∀ x ∈ xs ++ [(payload, false)], x.2 = false := by
      intro xs h
      exact List.forall_mem_append.mpr ⟨h, List.forall_mem_singleton.mpr rfl⟩
    rintro (h | rfl)
    · cases v with
      | none => exact hlast h
      | some p =>
        obtain ⟨before, a, after, rfl, hafter⟩ := h
        exact ⟨before, a, after ++ [(payload, false)], by simp, hlast hafter⟩
    · exact ⟨attempts, false, [], rfl, nofun⟩

lemma allowedBy_acknowledged (attempts : List (Packet × Bool)) (payload : Packet) :
    allowedBy (attempts ++ [(payload, true)]) = Allowed.only payload := by
  have hmem : ∀ xs : List (Packet × Bool), ¬ ∀ x ∈ xs ++ [(payload, true)], x.2 = false :=
    fun xs h => Bool.noConfusion (h (payload, true) (List.mem_append_right _ List.mem_cons_self))
  funext v
  refine propext ⟨?_, ?_⟩
  · cases v with
    | none => exact fun h => (hmem attempts h).elim
    | some p =>
      rintro ⟨before, a, after, heq, hafter⟩
      rcases append_singleton_eq heq with ⟨-, -, hlast⟩ | ⟨rest, rfl, -⟩
      · cases hlast
        rfl
      · exact (hmem rest hafter).elim
  · rintro rfl
    exact ⟨attempts, true, [], rfl, nofun⟩

variable {payload : Packet}

lemma saves_idle (h : attemptedPayload request = none) (response : Option Response) :
    saves initial (exchanges ++ [(request, response)]) = saves initial exchanges := by
  simp [saves, h]

lemma saves_attempt (h : attemptedPayload request = some payload) (response : Option Response) :
    saves initial (exchanges ++ [(request, response)]) =
      saves initial exchanges ++ [(payload, response.any isSuccess)] := by
  simp [saves, h]

lemma allowedBy_initial (initial : Option Packet) :
    allowedBy (saves initial []) = fun v => v = initial := by
  cases initial with
  | none =>
    funext v
    refine propext ⟨?_, ?_⟩
    · cases v with
      | none => exact fun _ => rfl
      | some p =>
        rintro ⟨before, a, after, heq, -⟩
        cases before <;> cases heq
    · rintro rfl
      exact nofun
  | some payload => exact allowedBy_acknowledged [] payload

lemma truthful_snoc {exchange : Exchange} (h : Truthful reads store initial exchanges)
    (hlast : Truth reads store (saves initial exchanges) exchange) :
    Truthful reads store initial (exchanges ++ [exchange]) := by
  intro before x after heq
  rcases append_singleton_eq heq with ⟨-, rfl, rfl⟩ | ⟨rest, -, hbefore⟩
  · exact hlast
  · exact h before x rest hbefore

end Attempts

/-! ### Every response can be sent -/

section Responses

/-- The response is within the limits of the encoder, and its objects take few bytes. -/
structure Sendable (response : Response) : Prop where
  admitted : (Value.dictionary response).Admitted
  short : sizes ((Value.dictionary response).objects 0) + (Value.dictionary response).count * 8 +
    40 ≤ maxPlistSize

lemma responseFrame_ok (h : Sendable response) : ∃ frame, responseFrame response = .ok frame := by
  obtain ⟨hbody, hlen⟩ := encode_ok h.admitted h.short
  have hlimit : ¬ (Value.dictionary response).document.length > maxFrameBodyLen :=
    Nat.not_lt.mpr hlen
  refine ⟨⟨frameBinaryPlist, (Value.dictionary response).document⟩, ?_⟩
  unfold responseFrame
  rw [hbody]
  dsimp only [Frame.new]
  rw [if_neg hlimit]

lemma sendable_storageFailure (error : XartStoreError) : Sendable (storageFailure error) := by
  cases error <;> exact ⟨by decide +kernel, by decide +kernel⟩

lemma storageFailure_injective : Function.Injective storageFailure := by
  intro error error' h
  cases error <;> cases error' <;> first | rfl | simp [storageFailure, failure] at h

lemma sendable_saved : Sendable savedResponse :=
  ⟨by decide +kernel, by decide +kernel⟩

lemma sendable_refused {message : String}
    (h : requestOf request = .error message) : Sendable (failure message) := by
  unfold requestOf at h
  split at h
  · split at h
    · cases h
      exact ⟨by decide +kernel, by decide +kernel⟩
    split at h
    · cases h
    split at h
    · cases h
    · cases h
      exact ⟨by decide +kernel, by decide +kernel⟩
  · cases h
    exact ⟨by decide +kernel, by decide +kernel⟩

/-- The objects of the response before the identifier of the volume. -/
def objectsBeforeVolume (volumeExternal : Bool) : List EncodedObject :=
  [.dictionary [1, 3, 7, 9, 13] [2, 4, 8, 10, 14], .string successKey, .boolean true,
    .string versionKey, .dictionary [5] [6], .string uint64WrapperKey, .integer protocolVersion,
    .string volumeExternalKey, .boolean volumeExternal, .string volumeUuidKey,
    .dictionary [11] [12], .string uuidWrapperKey]

lemma objects_fetched (fetched : FetchedXart) :
    (Value.dictionary (fetchedResponse fetched)).objects 0 =
      objectsBeforeVolume fetched.volumeExternal ++
        [.data fetched.volumeId, .string xartKey, .data fetched.wireBlob] := by
  simp only [fetchedResponse, bridgexpcUuid, bridgexpcUint64, Value.objects, objectsEntries,
    entryIndices, Value.count, countEntries, objectsBeforeVolume, List.cons_append,
    List.nil_append, List.map_cons, List.map_nil, Nat.reduceAdd]

lemma sendable_fetched {fetched : FetchedXart}
    (hblob : fetched.wireBlob.length ≤ xartMaxPayloadSize + 4)
    (hid : fetched.volumeId.length = 16) : Sendable (fetchedResponse fetched) := by
  obtain ⟨hsizes, hbytes, hreferences, hlength, hfine⟩ := (by decide +kernel : ∀ external,
    sizes (objectsBeforeVolume external) ≤ 1000 ∧ bytesOf (objectsBeforeVolume external) ≤ 1000 ∧
      referencesOf (objectsBeforeVolume external) = 14 ∧
      (objectsBeforeVolume external).length = 12 ∧
      ∀ object ∈ objectsBeforeVolume external, object.InRange ∧ object.Fits) fetched.volumeExternal
  have hkey : xartKey.utf8ByteSize + 2 * (encodeUtf16 xartKey).length ≤ 100 := by decide +kernel
  have hlevels : (Value.dictionary (fetchedResponse fetched)).levels = 3 := by
    simp only [fetchedResponse, bridgexpcUuid, bridgexpcUint64, Value.levels, levelsEntries]
    decide
  have hcount := length_objects (Value.dictionary (fetchedResponse fetched)) 0
  have hmax : xartMaxPayloadSize = 16367 := rfl
  simp only [sizes, bytesOf, referencesOf] at hsizes hbytes hreferences
  rw [objects_fetched, List.length_append, hlength] at hcount
  refine ⟨?_, ?_⟩
  · rw [Value.Admitted, objects_fetched, hlevels]
    simp only [Encoder.admits_iff, bytesOf, referencesOf, List.map_append, List.sum_append,
      List.map_cons, List.map_nil, List.sum_cons, List.sum_nil, List.length_append, hlength,
      hreferences, EncodedObject.byteCount, EncodedObject.referenceCount, maxDepth, maxObjects,
      maxReferences, maxValueBytes, maxPlistSize, List.length_cons, List.length_nil]
    refine ⟨by decide, by decide, by decide, by omega, ?_⟩
    exact List.forall_mem_append.mpr ⟨hfine, by simp [EncodedObject.InRange, EncodedObject.Fits]⟩
  · rw [objects_fetched, ← hcount]
    simp only [sizes, List.map_append, List.sum_append, List.map_cons, List.map_nil, List.sum_cons,
      List.sum_nil, EncodedObject.size, List.length_cons, List.length_nil, maxPlistSize]
    omega

end Responses

/-! ### One request -/

section Request

variable {log : List Happening}

/-- What is known when a request was handled: its response can be sent and is true, and the
record is what the exchanges admit, whether or not the response arrives. -/
structure Handled (reads : Prop) (store : XartStore) (initial : Option Packet) (root : Ref)
    (log : List Happening) (exchanges : List Exchange) (request : Value) (response : Response)
    (w : World) : Prop where
  sendable : Sendable response
  truth : Truth reads store (saves initial exchanges) (request, some response)
  unsent : At log (allowedBy (saves initial (exchanges ++ [(request, none)]))) root w
  sent : At log (allowedBy (saves initial (exchanges ++ [(request, some response)]))) root w

lemma handled_idle (hidle : attemptedPayload request = none) (hsendable : Sendable response)
    (htruth : Truth reads store (saves initial exchanges) (request, some response))
    (h : At log (allowedBy (saves initial exchanges)) root w) :
    Handled reads store initial root log exchanges request response w where
  sendable := hsendable
  truth := htruth
  unsent := by rw [saves_idle hidle]; exact h
  sent := by rw [saves_idle hidle]; exact h

lemma wp_handleFetch (hrequest : requestOf request = .ok .fetch)
    (h : At log (allowedBy (saves initial exchanges)) root w) : wp (Host reads)
      (fun w _ => At log (allowedBy (saves initial (exchanges ++ [(request, none)]))) root w)
      (handleFetch store)
      (fun response w => Handled reads store initial root log exchanges request response w) w := by
  have hidle : attemptedPayload request = none := by simp [attemptedPayload, hrequest]
  refine (wp_bind _ _).mpr ?_
  refine Prog.wp_weaken ?_ ?_ (wp_fetch h.2)
  · rintro w' - rfl
    rw [saves_idle hidle]
    exact h
  rintro (error | fetched) w' ⟨rfl, hfetched⟩
  · refine handled_idle hidle (sendable_storageFailure error) ?_ h
    intro _ response hresponse
    cases hresponse
    refine ⟨fun hsuccess => ?_, fun hreads heq => hfetched hreads ?_⟩
    · cases error <;> cases hsuccess
    · rw [storageFailure_injective heq]
  · obtain ⟨v, hv, hlen, rfl⟩ := hfetched
    refine handled_idle hidle (sendable_fetched ?_ store.length_eq) ?_ h
    · rw [wireBlob, List.length_append, length_leBytes]
      omega
    intro _ response hresponse
    cases hresponse
    refine ⟨fun _ => ⟨v, hv, rfl⟩, fun _ heq => ?_⟩
    cases congrArg List.length heq

lemma wp_handleSave (process sequence : ℕ) {value : Option Value}
    (hrequest : requestOf request = .ok (.save value))
    (h : At log (allowedBy (saves initial exchanges)) root w) : wp (Host reads)
      (fun w _ => At log (allowedBy (saves initial (exchanges ++ [(request, none)]))) root w)
      (handleSave process sequence value)
      (fun r w => Handled reads store initial root log exchanges request r.1 w) w := by
  have htruth : ∀ response, Truth reads store (saves initial exchanges) (request, some response) :=
    fun response hfetch => nomatch hrequest.symm.trans hfetch
  unfold handleSave
  split
  case h_2 hdata =>
    refine handled_idle ?_ (sendable_storageFailure .invalidWireBlob) (htruth _) h
    unfold attemptedPayload
    rw [hrequest]
    split
    · rename_i blob heq
      cases heq
      exact (hdata blob rfl).elim
    · rfl
  case h_1 blob =>
    refine (wp_bind _ _).mpr ?_
    cases hblob : validateWireBlob blob with
    | error error =>
      -- Nothing was asked of the file system.
      have hidle : attemptedPayload request = none := by
        simp [attemptedPayload, hrequest, hblob, Except.toOption]
      unfold save
      rw [hblob]
      exact handled_idle hidle (sendable_storageFailure error) (htruth _) h
    | ok payload =>
      have hattempt : attemptedPayload request = some payload := by
        simp [attemptedPayload, hrequest, hblob, Except.toOption]
      have hadd : allowedBy (saves initial (exchanges ++ [(request, none)])) =
          (allowedBy (saves initial exchanges)).add payload := by
        rw [saves_attempt hattempt]
        exact allowedBy_failed _ payload
      rw [hadd]
      refine wp_mono ?_ (wp_save process sequence hblob h)
      rintro ⟨error | _, sequence'⟩ w' ⟨hat, hsaved⟩
      · refine ⟨sendable_storageFailure error, htruth _, hadd ▸ hat, ?_⟩
        have hfailed : isSuccess (storageFailure error) = false := by cases error <;> rfl
        rw [saves_attempt hattempt, Option.any_some, hfailed, allowedBy_failed]
        exact hat
      · refine ⟨sendable_saved, htruth _, hadd ▸ hat, hat.1, ?_⟩
        have hsuccess : isSuccess savedResponse = true := rfl
        rw [saves_attempt hattempt, Option.any_some, hsuccess, allowedBy_acknowledged]
        exact hsaved rfl

lemma wp_handleRequest (process sequence : ℕ)
    (h : At log (allowedBy (saves initial exchanges)) root w) : wp (Host reads)
      (fun w _ => At log (allowedBy (saves initial (exchanges ++ [(request, none)]))) root w)
      (handleRequest store process sequence request)
      (fun r w => Handled reads store initial root log exchanges request r.1 w) w := by
  unfold handleRequest
  split
  · rename_i message hrequest
    have hidle : attemptedPayload request = none := by simp [attemptedPayload, hrequest]
    exact handled_idle hidle (sendable_refused hrequest)
      (fun hfetch => nomatch hrequest.symm.trans hfetch) h
  · rename_i hrequest
    refine (wp_bind _ _).mpr ?_
    exact wp_handleFetch hrequest h
  · rename_i value hrequest
    exact wp_handleSave process sequence hrequest h

end Request

/-! ### Connections -/

section Serving

lemma wp_receiveFrame {Q : Except TransportError Frame → World → Prop}
    (hsafe : safe w .receiveFrame) (h : ∀ r, Q r (w.record (.received r))) :
    wp (Host reads) safe receiveFrame Q w :=
  Prog.wp_perform hsafe fun c _ => h c.received

lemma wp_sendFrame {frame : Frame} {Q : Except TransportError Unit → World → Prop}
    (hsafe : safe w (.sendFrame frame)) (h : ∀ r, Q r (w.record (.sent frame r))) :
    wp (Host reads) safe (sendFrame frame) Q w :=
  Prog.wp_perform hsafe fun c _ => h c.sent

variable (reads decode validatePeerHello store initial root)

/-- The log reads as exchanges, every answer was true, and the record is what they admit. -/
structure Consistent (phase : Phase) (exchanges : List Exchange) (w : World) : Prop where
  served : Served decode validatePeerHello phase w.log exchanges
  truthful : Truthful reads store initial exchanges
  record : Holds (allowedBy (saves initial exchanges)) root w.fs

/-- Wherever the service is stopped, the log and the record are consistent. -/
def Sound (w : World) : Prop :=
  ∃ phase exchanges, Consistent reads decode validatePeerHello store initial root phase exchanges w

/-- A connection that has ended leaves the service idle. -/
def Ended (r : Option (Except XartSessionError Unit) × ℕ) (w : World) : Prop :=
  ∃ phase exchanges,
    Consistent reads decode validatePeerHello store initial root phase exchanges w ∧
      (r.1.isSome → phase = .idle)

variable {reads decode validatePeerHello store initial root}

lemma wp_serveRequests (process n sequence : ℕ)
    (h : Consistent reads decode validatePeerHello store initial root .serving exchanges w) :
    wp (Host reads) (fun w _ => Sound reads decode validatePeerHello store initial root w)
      (serveRequests decode store process n sequence)
      (Ended reads decode validatePeerHello store initial root) w := by
  induction n generalizing sequence exchanges w with
  | zero => exact ⟨_, _, h, nofun⟩
  | succ n ih =>
    refine (wp_bind _ _).mpr ?_
    refine wp_receiveFrame ⟨_, _, h⟩ ?_
    rintro (error | frame)
    · have hlost : Consistent reads decode validatePeerHello store initial root .idle exchanges
          (w.record (.received (.error error))) :=
        ⟨Served.lost error (.inr rfl) h.served, h.truthful, h.record⟩
      cases error <;> exact ⟨_, _, hlost, fun _ => rfl⟩
    dsimp only
    split
    · rename_i htype
      exact ih _ ⟨Served.ignored h.served htype, h.truthful, h.record⟩
    rename_i htype
    have htype := not_not.mp htype
    cases hdecode : decode frame.body with
    | error error =>
      exact ⟨_, _, ⟨Served.undecoded h.served htype hdecode, h.truthful, h.record⟩, fun _ => rfl⟩
    | ok request =>
      have hasked : Served decode validatePeerHello .asked
          (w.record (.received (.ok frame))).log (exchanges ++ [(request, none)]) :=
        Served.asked h.served htype hdecode
      have hunanswered : Truth reads store (saves initial exchanges) (request, none) := by
        rintro _ _ ⟨⟩
      have htruthful := truthful_snoc h.truthful hunanswered
      refine (wp_bind _ _).mpr ?_
      refine Prog.wp_weaken ?_ ?_ (wp_handleRequest process sequence ⟨rfl, h.record⟩)
      · rintro w' - ⟨hlog, hrecord⟩
        exact ⟨_, _, hlog ▸ hasked, htruthful, hrecord⟩
      rintro ⟨response, sequence'⟩ w' hw'
      obtain ⟨answer, hanswer⟩ := responseFrame_ok hw'.sendable
      have hasked' : Served decode validatePeerHello .asked w'.log
          (exchanges ++ [(request, none)]) := hw'.unsent.1 ▸ hasked
      rw [hanswer]
      refine (wp_bind _ _).mpr ?_
      refine wp_sendFrame ⟨_, _, hasked', htruthful, hw'.unsent.2⟩ ?_
      rintro (error | _)
      · exact ⟨_, _, ⟨Served.unsent error hasked', htruthful, hw'.unsent.2⟩, fun _ => rfl⟩
      · exact ih _ ⟨Served.answered hasked' hanswer, truthful_snoc h.truthful hw'.truth, hw'.sent.2⟩

lemma wp_serveConnection (process n sequence : ℕ)
    (h : Consistent reads decode validatePeerHello store initial root .idle exchanges w) :
    wp (Host reads) (fun w _ => Sound reads decode validatePeerHello store initial root w)
      (serveConnection decode validatePeerHello store process n sequence)
      (Ended reads decode validatePeerHello store initial root) w := by
  refine (wp_bind _ _).mpr ?_
  refine wp_sendFrame ⟨_, _, h⟩ ?_
  rintro (error | _)
  · exact ⟨_, _, ⟨Served.ungreeted error h.served, h.truthful, h.record⟩, fun _ => rfl⟩
  have hgreeted := Served.greeted h.served
  refine (wp_bind _ _).mpr ?_
  refine wp_receiveFrame ⟨_, _, hgreeted, h.truthful, h.record⟩ ?_
  rintro (error | frame)
  · exact ⟨_, _, ⟨Served.lost error (.inl rfl) hgreeted, h.truthful, h.record⟩, fun _ => rfl⟩
  cases hhello : checkPeerHello validatePeerHello frame with
  | error error =>
    dsimp only
    rw [hhello]
    exact ⟨_, _, ⟨Served.unwelcome hgreeted hhello, h.truthful, h.record⟩, fun _ => rfl⟩
  | ok _ =>
    dsimp only
    rw [hhello]
    exact wp_serveRequests process n sequence
      ⟨Served.welcomed hgreeted hhello, h.truthful, h.record⟩

end Serving

/-! ### The life of the service -/

section

variable {start w' : World} {process n sequence : ℕ}

variable (reads decode validatePeerHello store)

/-- A life of the service up to a point between two connections: connections that ended, one
after the other, and restarts at any point of one, after which a crash may have taken whatever it
can.  A new process has any number and counts its temporary files from zero. -/
inductive History (start : World) : World → ℕ → ℕ → Prop
  | start (process : ℕ) : History start start process 0
  | connection {w w' : World} {process n sequence sequence' : ℕ}
      {result : Except XartSessionError Unit} : History start w process sequence →
      Prog.Steps (Host reads) (serveConnection decode validatePeerHello store process n sequence) w
        (.ret (some result, sequence')) w' → History start w' process sequence'
  | restarted {w w' w'' : World} {process n sequence : ℕ}
      {rest : XartProg (Option (Except XartSessionError Unit) × ℕ)} (process' : ℕ) :
      History start w process sequence →
      Prog.Steps (Host reads) (serveConnection decode validatePeerHello store process n sequence) w
        rest w' → Left w'.fs w''.fs → w''.log = w'.log ++ [.restarted] →
      History start w'' process' 0

variable {reads decode validatePeerHello store}

lemma Consistent.stopped
    (h : Consistent reads decode validatePeerHello store initial root .idle exchanges w)
    {rest : XartProg (Option (Except XartSessionError Unit) × ℕ)} (hsteps : Prog.Steps (Host reads)
      (serveConnection decode validatePeerHello store process n sequence) w rest w') :
    Sound reads decode validatePeerHello store initial root w' := by
  refine hsteps.invariant_of_wp (wp_mono ?_ (wp_serveConnection process n sequence h))
  rintro r w' ⟨phase, exchanges, hw', -⟩
  exact ⟨phase, exchanges, hw'⟩

lemma History.consistent (hrecord : Holds (fun v => v = initial) root start.fs)
    (hlog : start.log = [])
    (h : History reads decode validatePeerHello store start w process sequence) :
    ∃ exchanges, Consistent reads decode validatePeerHello store initial root .idle exchanges w := by
  induction h with
  | start process =>
    refine ⟨[], ?_, ?_, ?_⟩
    · rw [hlog]
      exact Served.start
    · intro before x after heq
      cases before <;> cases heq
    · rw [allowedBy_initial]
      exact hrecord
  | connection _ hsteps ih =>
    obtain ⟨exchanges, hw⟩ := ih
    obtain ⟨phase, exchanges', hw', hidle⟩ := hsteps.post_of_wp (wp_serveConnection _ _ _ hw)
    cases hidle rfl
    exact ⟨exchanges', hw'⟩
  | restarted process' _ hsteps hleft hlog ih =>
    obtain ⟨exchanges, hw⟩ := ih
    obtain ⟨phase, exchanges', hw'⟩ := hw.stopped hsteps
    refine ⟨exchanges', ?_, hw'.truthful, hw'.record.left hleft⟩
    rw [hlog]
    exact Served.restarted hw'.served

/-- A fetch after an acknowledged save, with no other attempt between, returns its payload. -/
lemma Truthful.latest (h : Truthful reads store initial exchanges)
    {before middle after : List Exchange} {save fetch : Exchange} {payload : Packet}
    (hexchanges : exchanges = before ++ save :: middle ++ fetch :: after)
    (hattempt : attemptedPayload save.1 = some payload) (hsaved : save.2.any isSuccess = true)
    (hmiddle : ∀ exchange ∈ middle, attemptedPayload exchange.1 = none)
    (hfetch : requestOf fetch.1 = .ok .fetch) (hresponse : fetch.2 = some response)
    (hsuccess : isSuccess response = true) :
    response = fetchedResponse ⟨wireBlob payload, store.volumeId, store.volumeExternal⟩ := by
  have hmiddle : middle.filterMap (fun exchange => (attemptedPayload exchange.1).map
      fun payload => (payload, exchange.2.any isSuccess)) = [] := by
    refine List.filterMap_eq_nil_iff.mpr fun exchange hexchange => ?_
    rw [hmiddle exchange hexchange]
    rfl
  have hsaves : saves initial (before ++ save :: middle) =
      saves initial before ++ [(payload, true)] := by
    simp only [saves, List.filterMap_append, List.filterMap_cons, hattempt, hsaved, hmiddle,
      Option.map_some, List.append_assoc]
  obtain ⟨v, hv, hequal⟩ := (h _ _ _ hexchanges hfetch response hresponse).1 hsuccess
  rw [hsaves, allowedBy_acknowledged] at hv
  cases hv
  exact hequal

/-- In every life of the service, the log reads as requests that are each answered once and in
their order.  A fetch returns the bootstrap answer or a whole payload that is not older than the
last acknowledged save, that save's own when none was attempted since; and, as long as no call
fails that reads the record, a record is never called invalid. -/
theorem record_is_kept (hrecord : Holds (fun v => v = initial) root start.fs)
    (hlog : start.log = [])
    (h : History reads decode validatePeerHello store start w process sequence)
    {rest : XartProg (Option (Except XartSessionError Unit) × ℕ)} (hsteps : Prog.Steps (Host reads)
      (serveConnection decode validatePeerHello store process n sequence) w rest w') :
    ∃ phase exchanges, Served decode validatePeerHello phase w'.log exchanges ∧
      Truthful reads store initial exchanges ∧ ∀ before save middle fetch after payload response,
        exchanges = before ++ save :: middle ++ fetch :: after →
        attemptedPayload save.1 = some payload → save.2.any isSuccess = true →
        (∀ exchange ∈ middle, attemptedPayload exchange.1 = none) →
        requestOf fetch.1 = .ok .fetch → fetch.2 = some response → isSuccess response = true →
        response = fetchedResponse ⟨wireBlob payload, store.volumeId, store.volumeExternal⟩ := by
  obtain ⟨exchanges, hw⟩ := h.consistent hrecord hlog
  obtain ⟨phase, exchanges', hw'⟩ := hw.stopped hsteps
  refine ⟨phase, exchanges', hw'.served, hw'.truthful, ?_⟩
  intro before save middle fetch after payload response
  exact hw'.truthful.latest

end

/-! ### A connection that saves and fetches -/

/-- A host whose store directory holds no record. -/
def emptyStore : World where
  fs :=
    { attributes := fun _ => ⟨.directory, 0o700, ⟨0, 0⟩⟩
      file := fun _ => ⟨[], true⟩
      directory := fun _ => ⟨∅, []⟩
      next := 1
      root := some 0
      rootSynced := true }
  bounded := ⟨fun _ h => Option.some.inj h ▸ Nat.one_pos, nofun, nofun⟩
  who := ⟨0, 0⟩
  log := []

lemma holds_emptyStore : Holds (fun v => v = none) 0 emptyStore.fs where
  root_eq := rfl
  rootSynced := rfl
  kind := rfl
  record := by
    rintro v (hv | ⟨c, hc, -⟩)
    · cases hv
      rfl
    · cases hc

def seedDevice : XartStore := ⟨List.replicate 16 7, false, rfl⟩

def seedRequest (command : ℕ) (rest : List (String × Value)) : Value :=
  .dictionary ((commandKey, bridgexpcUint64 command) ::
    (versionKey, bridgexpcUint64 protocolVersion) :: rest)

/-- A peer with two requests, each a body of one byte. -/
def seedDecode : Packet → Except PlistError Value
  | [1] => .ok (seedRequest saveCommand [(xartKey, .data (wireBlob [5, 6]))])
  | [2] => .ok (seedRequest fetchCommand [])
  | _ => .error .invalidHeader

def seedChoice (frame : Frame) (fault : Option (List UInt8)) : Choice :=
  ⟨fault, [], .ok frame, .ok ()⟩

/-- The greeting, a save, and a fetch whose first read does as `fault` says. -/
def seedChoices (fault : Option (List UInt8)) : List Choice :=
  List.replicate 2 (seedChoice ⟨frameHello, []⟩ none) ++
    List.replicate 14 (seedChoice ⟨frameBinaryPlist, [1]⟩ none) ++
    List.replicate 4 (seedChoice ⟨frameBinaryPlist, [2]⟩ none) ++
    seedChoice ⟨frameBinaryPlist, [2]⟩ fault ::
    List.replicate 2 (seedChoice ⟨frameBinaryPlist, [2]⟩ none)

def seedConnection : XartProg (Option (Except XartSessionError Unit) × ℕ) :=
  serveConnection seedDecode (fun _ => .ok ()) seedDevice 1 2 0

/-- The events of the connection, with the bodies of the two responses. -/
def seedLog (first second : Response) : List Happening :=
  let answer (response : Response) : Happening :=
    .sent ⟨frameBinaryPlist, (encode (.dictionary response)).toOption.getD []⟩ (.ok ())
  [.sent serverHello (.ok ()), .received (.ok ⟨frameHello, []⟩),
    .received (.ok ⟨frameBinaryPlist, [1]⟩), answer first,
    .received (.ok ⟨frameBinaryPlist, [2]⟩), answer second]

theorem record_is_kept_saved :
    let w := (Prog.advance (Host True) (seedChoices none) seedConnection emptyStore).2
    w.log = seedLog savedResponse (fetchedResponse ⟨wireBlob [5, 6], seedDevice.volumeId, false⟩) ∧
      ∃ phase exchanges, Served seedDecode (fun _ => .ok ()) phase w.log exchanges ∧
        Truthful True seedDevice none exchanges := by
  refine ⟨by decide +kernel, ?_⟩
  obtain ⟨phase, exchanges, hserved, htruthful, -⟩ :=
    record_is_kept holds_emptyStore rfl (History.start 1)
      (Prog.advance_steps (E := Host True) (seedChoices none) seedConnection emptyStore)
  exact ⟨phase, exchanges, hserved, htruthful⟩

/-- A fetch that follows an acknowledged save calls its record invalid when reading it fails. -/
theorem record_called_invalid : Holds (fun v => v = none) 0 emptyStore.fs ∧ ∃ w,
      Prog.Steps (Host False) seedConnection emptyStore (.ret (none, 1)) w ∧
      w.log = seedLog savedResponse (storageFailure .invalidStoredBlob) := by
  refine ⟨holds_emptyStore,
    (advance (Host False) (seedChoices (some [])) seedConnection emptyStore).2, ?_,
    by decide +kernel⟩
  have hresult : (advance (Host False) (seedChoices (some [])) seedConnection
      emptyStore).1.result = some (none, 1) := by decide +kernel
  rw [← Prog.eq_ret_of_result hresult]
  exact Prog.advance_steps _ _ _

end T1Bridge.Xart
