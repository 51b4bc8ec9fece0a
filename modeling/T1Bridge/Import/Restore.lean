import T1Bridge.Lib.Except
import T1Bridge.Wire.PlistDecode

/-! # The restore exchange

One restore pass of the recovery importer: the loop that serves the data requests of a T1 in
restore mode until the final status.  The acknowledgement of a commit makes the device forget
its factory data, so the order of the check, the comparison with the replayed store, the
persistence and the reply is what matters.

The pass is a machine whose input is what one turn of the loop meets: a message of the device,
and the outcome of each operation of the turn.  `Account` says what a pass went through up to
its state; its run lemma is `Account.of_run`. -/

namespace T1Bridge.Import

open Wire (Value)
open Except (of_bind_ok of_ite_error_ok)

/-- An error is its text. -/
abbrev Error := String

namespace Plist

def invalid : Error := "invalid recovery property list"

def dictionary : Value → Except Error (List (String × Value))
  | .dictionary entries => .ok entries
  | _ => .error invalid

def get (value : Value) (key : String) : Except Error Value := do
  match (← dictionary value).lookup key with
  | some found => .ok found
  | none => .error invalid

def text : Value → Except Error String
  | .string value => .ok value
  | _ => .error invalid

/-- Numbers in a text are read by `parse`: hexadecimal after `0x`, else decimal. -/
def integer (parse : String → Option ℕ) : Value → Except Error ℕ
  | .integer value => if 0 ≤ value ∧ value < 2 ^ 64 then .ok value.toNat else .error invalid
  | .string value => match parse value with
    | some number => .ok number
    | none => .error invalid
  | _ => .error invalid

mutual

/-- Equality of values, as the source derives it. -/
def same : Value → Value → Bool
  | .null, .null => true
  | .boolean a, .boolean b => a == b
  | .integer a, .integer b => a == b
  | .data a, .data b => a == b
  | .string a, .string b => a == b
  | .array as, .array bs => sameValues as bs
  | .dictionary as, .dictionary bs => sameEntries as bs
  | _, _ => false

def sameValues : List Value → List Value → Bool
  | [], [] => true
  | a :: as, b :: bs => same a b && sameValues as bs
  | _, _ => false

def sameEntries : List (String × Value) → List (String × Value) → Bool
  | [], [] => true
  | a :: as, b :: bs => a.1 == b.1 && same a.2 b.2 && sameEntries as bs
  | _, _ => false

end

mutual

theorem eq_of_same : ∀ {a b : Value}, same a b = true → a = b
  | .null, b, h => by cases b <;> simp_all [same]
  | .boolean _, b, h => by cases b <;> simp_all [same]
  | .integer _, b, h => by cases b <;> simp_all [same]
  | .data _, b, h => by cases b <;> simp_all [same]
  | .string _, b, h => by cases b <;> simp_all [same]
  | .array as, b, h => by
      cases b <;> simp only [same, Bool.false_eq_true] at h
      rw [eq_of_sameValues h]
  | .dictionary as, b, h => by
      cases b <;> simp only [same, Bool.false_eq_true] at h
      rw [eq_of_sameEntries h]

theorem eq_of_sameValues : ∀ {as bs : List Value}, sameValues as bs = true → as = bs
  | [], bs, h => by cases bs <;> simp_all [sameValues]
  | a :: as, [], h => by simp [sameValues] at h
  | a :: as, b :: bs, h => by
      simp only [sameValues, Bool.and_eq_true] at h
      rw [eq_of_same h.1, eq_of_sameValues h.2]

theorem eq_of_sameEntries : ∀ {as bs : List (String × Value)}, sameEntries as bs = true → as = bs
  | [], bs, h => by cases bs <;> simp_all [sameEntries]
  | (k, a) :: as, [], h => by simp [sameEntries] at h
  | (k, a) :: as, (l, b) :: bs, h => by
      simp only [sameEntries, Bool.and_eq_true, beq_iff_eq] at h
      rw [h.1.1, eq_of_same h.1.2, eq_of_sameEntries h.2]

end

end Plist

namespace Restore

open Plist

def invalid : Error := "invalid or unsupported EmbeddedOS restore message"

/-- What a pass is given: the readers of property lists and numbers, the parts of the firmware
it serves, and the store an earlier pass committed. -/
structure Context where
  decode : Packet → Except Error Value
  parse : String → Option ℕ
  identity : Value
  norComponents : Except Error (List String)
  combined : Packet
  ticket : Packet
  component : String → Except Error Packet
  replay : Option Packet

/-- What one turn of the loop meets.  `persisted`, `connected`, `sent` and `finished` are the
outcomes of the operations, in case the turn gets to them. -/
structure Turn where
  expired : Bool
  polled : Except Error Unit
  received : Except Error (Option Value)
  closed : Except Error Bool
  persisted : Except Error Unit
  connected : Except Error Unit
  sent : Except Error Unit
  finished : Except Error Unit

/-- What a turn does, in order; a reply is recorded before its bytes are written. -/
inductive Effect where
  | persist (name : String) (bytes : Packet) (outcome : Except Error Unit)
  | reply (message response : Value)
  | finalStatus

/-- An operation's effects and its result. -/
abbrev Outcome (α : Type) := List Effect × Except Error α

variable (c : Context)

def keys : List String :=
  ["FDRMemoryStoreData", "FDRMemoryCommitData", "FDRData", "MemoryStoreData", "Data"]

/-- The values a commit may mean: those under one of the keys, or an only argument. -/
def candidates (message : Value) : Except Error (List Value) := do
  let top ← dictionary message
  match top.lookup "Arguments" with
  | none => .ok (keys.filterMap (List.lookup · top))
  | some arguments => do
    let arguments ← dictionary arguments
    let found := keys.filterMap (List.lookup · top) ++ keys.filterMap (List.lookup · arguments)
    .ok (if found.isEmpty ∧ arguments.length = 1 then arguments.map Prod.snd else found)

/-- A candidate's store, and the bytes that stand for it. -/
def storeOf : Value → Except Error (Value × Packet)
  | .data bytes => do .ok (← c.decode bytes, bytes)
  | .dictionary entries => match Wire.encode (.dictionary entries) with
    | .ok bytes => .ok (.dictionary entries, bytes)
    | .error _ => .error invalid
  | _ => .error invalid

def fdrPayload (message : Value) : Except Error Packet := do
  match ← candidates message with
  | [value] => do
    let (store, bytes) ← storeOf c value
    if (← dictionary store).isEmpty then .error "FDR commit contains an empty store"
    else .ok bytes
  | _ => .error "missing or ambiguous FDR commit payload"

/-- The checks of a commit before anything is persisted. -/
def checkCommit (message : Value) (committed : Option Packet) : Except Error Packet := do
  if committed.isSome then .error "duplicate FDR commit in one restore attempt"
  else
    let bytes ← fdrPayload c message
    match c.replay with
    | none => .ok bytes
    | some replay =>
      let store ← c.decode bytes
      let replayed ← c.decode replay
      if !same store replayed then .error "FDR replay differs from the provisioned store"
      else .ok bytes

def acceptCommit (message : Value) (committed : Option Packet)
    (persisted : Except Error Unit) : Outcome Packet :=
  match checkCommit c message committed with
  | .error e => ([], .error e)
  | .ok bytes => ([.persist "FDRData" bytes persisted], persisted.map fun _ => bytes)

def componentReply (kind : String) (bytes : Packet) : Value :=
  .dictionary [(kind ++ "File", .data bytes)]

/-- Images of one name are one component, so a repeated name changes nothing. -/
def norData (message : Value) : Except Error Value := do
  let arguments := (← dictionary message).lookup "Arguments"
  let versionOne := match arguments.map dictionary with
    | some (.ok fields) => (fields.lookup "FlashVersion1").isSome
    | _ => false
  let images ← c.norComponents
  let parts ← images.mapM fun name => do .ok (name, Value.data (← c.component name))
  let nor := if versionOne then
      .dictionary (parts.foldl (fun entries part =>
        (Wire.insertEntry part.1 part.2 entries).getD entries) [])
    else .array (parts.map Prod.snd)
  .ok (.dictionary [("LlbImageData", .data (← c.component "LLB")), ("NorImageData", nor),
    ("RestoreSEPImageData", .data (← c.component "RestoreSEP")),
    ("SEPImageData", .data (← c.component "SEP"))])

def buildIdentity (message : Value) : Except Error Value := do
  let arguments := (← dictionary message).lookup "Arguments"
  let variant := match arguments.map dictionary with
    | some (.ok fields) => (fields.lookup "Variant").getD (.string "Erase")
    | _ => .string "Erase"
  if 128 < (← text variant).utf8ByteSize then .error invalid
  else .ok (.dictionary [("BuildIdentityDict", c.identity), ("Variant", variant)])

/-- The answer to a request that commits nothing. -/
def served (kind : String) (message : Value) : Except Error Value :=
  match kind with
  | "RootTicket" => match c.replay with
    | none => .ok (.dictionary [("RootTicketData", .data c.ticket)])
    | some replay => do
      .ok (.dictionary [("FDRMemoryStoreData", ← c.decode replay),
        ("RootTicketData", .data c.ticket)])
  | "FDRTrustData" => .ok (.dictionary [])
  | "KernelCache" | "DeviceTree" => do .ok (componentReply kind (← c.component kind))
  | "NORData" => norData c message
  | "BuildIdentityDict" => buildIdentity c message
  | _ => .error "restore requested a data type outside the native T1 implementation"

/-- The response, with the committed store after it. -/
def dataReply (message : Value) (committed : Option Packet) (persisted : Except Error Unit) :
    Outcome (Value × Option Packet) :=
  match get message "DataType" >>= text with
  | .error e => ([], .error e)
  | .ok kind =>
    if kind = "FDRMemoryCommit" then
      let accepted := acceptCommit c message committed persisted
      (accepted.1, accepted.2.map fun bytes => (.dictionary [], some bytes))
    else ([], (served c kind message).map fun response => (response, committed))

/-- A port below 1024 is refused; a reply that has its own port connects to it first. -/
def replyPort (message : Value) (connected : Except Error Unit) : Except Error Unit := do
  match (← dictionary message).lookup "DataPort" with
  | none => .ok ()
  | some port =>
    let destination ← integer c.parse port
    if 2 ^ 16 ≤ destination ∨ destination < 1024 then .error invalid else connected

def reply (turn : Turn) (message response : Value) : Outcome Unit :=
  match replyPort c message turn.connected with
  | .error e => ([], .error e)
  | .ok () => ([.reply message response], turn.sent)

/-- A status field that is there and is not zero. -/
def nonzero : Option Value → Bool
  | none | some (.integer 0) => false
  | some _ => true

def checkFinalStatus (message : Value) (fdr : Option Packet) : Except Error Unit := do
  let fields ← dictionary message
  let status ← get message "Status" >>= integer c.parse
  if status ≠ 0 ∨ nonzero (fields.lookup "AMRError") then
    .error "EmbeddedOS restore reported failure"
  else if fdr.getD [] = [] then .error "restore completed without committing FDR data"
  else .ok ()

def checkCheckpoint (message : Value) : Except Error Unit := do
  let fields ← dictionary message
  if (fields.lookup "CHECKPOINT_ERROR").isSome ∨ nonzero (fields.lookup "CHECKPOINT_RESULT") then
    .error "EmbeddedOS restore checkpoint failed"
  else .ok ()

/-- What the loop keeps between two turns. -/
structure Exchange where
  committed : Option Packet
  requests : ℕ

/-- A pass over the import, under way or ended. -/
inductive Pass where
  | running (exchange : Exchange)
  | ended (result : Except Error Packet)

/-- The message of a turn, if one is there. -/
def Turn.message (turn : Turn) : Except Error (Option Value) :=
  if turn.expired then .error "EmbeddedOS restore exceeded its deadline"
  else do
    turn.polled
    match ← turn.received with
    | some message => .ok (some message)
    | none => do
      if ← turn.closed then .error "restore disconnected without successful final status"
      else .ok none

def handle (x : Exchange) (turn : Turn) (message : Value) : Outcome Pass :=
  match get message "MsgType" >>= text with
  | .error e => ([], .error e)
  | .ok "DataRequestMsg" =>
    match dataReply c message x.committed turn.persisted with
    | (effects, .error e) => (effects, .error e)
    | (effects, .ok (response, committed)) =>
      let replied := reply c turn message response
      (effects ++ replied.1, replied.2.map fun _ => .running { x with committed })
  | .ok "StatusMsg" => match checkFinalStatus c message x.committed with
    | .error e => ([], .error e)
    | .ok () => ([.finalStatus], do
      turn.finished
      match x.committed with
      | some fdr => .ok (.ended (.ok fdr))
      | none => .error invalid)
  | .ok "CheckpointMsg" => ([], (checkCheckpoint message).map fun _ => .running x)
  | .ok "ProgressMsg" | .ok "PreviousRestoreLogMsg" => ([], .ok (.running x))
  | .ok _ => ([], .error invalid)

def turnOnce (x : Exchange) (turn : Turn) : Outcome Pass :=
  match turn.message with
  | .error e => ([], .error e)
  | .ok none => ([], .ok (.running x))
  | .ok (some message) =>
    if 10000 < x.requests + 1 then ([], .error invalid)
    else handle c { x with requests := x.requests + 1 } turn message

/-- Before the loop the signed image and its ticket are kept; `entered` and `started` are the
outcomes of entering the restore mode and of starting the service. -/
def start (entered image ticket started : Except Error Unit) : List Effect × Pass :=
  let kept := Effect.persist "combined.memboot" c.combined image
  match entered, image with
  | .error e, _ => ([], .ended (.error e))
  | .ok (), .error e => ([kept], .ended (.error e))
  | .ok (), .ok () => ([kept, .persist "apticket" c.ticket ticket],
    match (do ticket; started) with
    | .error e => .ended (.error e)
    | .ok () => .running ⟨none, 0⟩)

def step : Pass → Turn → List Effect × Pass
  | .ended result, _ => ([], .ended result)
  | .running x, turn => ((turnOnce c x turn).1, match (turnOnce c x turn).2 with
    | .ok pass => pass
    | .error e => .ended (.error e))

/-- A restore pass: nothing happens after its end. -/
def machine : Machine Pass Turn (List Effect) where
  init pass := ∃ entered image ticket started, pass = (start c entered image ticket started).2
  enabled pass _ := ∃ x, pass = .running x
  step := step c

abbrev Event := Machine.Event Pass Turn (List Effect)

variable {tr : List Event}

/-! ### One turn -/

variable (message : Value)

def kindOf : Except Error String := get message "MsgType" >>= text

/-- The device asks the host to commit the store. -/
def IsCommit : Prop :=
  kindOf message = .ok "DataRequestMsg" ∧ (get message "DataType" >>= text) = .ok "FDRMemoryCommit"

/-- The commit names one store that is not empty and, when a store is replayed, equal to it. -/
structure Accepts (fdr : Packet) : Prop where
  asked : IsCommit message
  single : ∃ value entries, candidates message = .ok [value] ∧
    storeOf c value = .ok (.dictionary entries, fdr) ∧ entries ≠ []
  replayed : ∀ replay, c.replay = some replay →
    ∃ store, c.decode fdr = .ok store ∧ c.decode replay = .ok store

/-- The status field is absent or zero. -/
def Zero (fields : List (String × Value)) (key : String) : Prop :=
  fields.lookup key = none ∨ fields.lookup key = some (.integer 0)

/-- A checkpoint, if the message is one, reports no error. -/
def Checked : Prop :=
  kindOf message = .ok "CheckpointMsg" → ∃ fields, message = .dictionary fields ∧
    fields.lookup "CHECKPOINT_ERROR" = none ∧ Zero fields "CHECKPOINT_RESULT"

/-- A final status of zero without a restore error. -/
structure Succeeds : Prop where
  kind : kindOf message = .ok "StatusMsg"
  status : (get message "Status" >>= integer c.parse) = .ok 0
  restored : ∃ fields, message = .dictionary fields ∧ Zero fields "AMRError"

lemma zero_of_nonzero {fields : List (String × Value)} {key : String}
    (h : ¬ nonzero (fields.lookup key) = true) : Zero fields key := by
  unfold nonzero at h
  split at h
  · exact .inl ‹_›
  · exact .inr ‹_›
  · exact absurd rfl h

lemma eq_dictionary {value : Value} {entries : List (String × Value)}
    (h : dictionary value = .ok entries) : value = .dictionary entries := by
  unfold dictionary at h
  split at h
  · exact congrArg _ (Except.ok.inj h)
  · cases h

variable {c} {x : Exchange} {turn : Turn} {message} {response : Value} {fdr : Packet}
  {committed : Option Packet} {effects : List Effect} {pass : Pass}
  {entered image ticket started : Except Error Unit} {persisted : Except Error Unit} {e : Event}

lemma fdrPayload_ok (h : fdrPayload c message = .ok fdr) :
    ∃ value entries, candidates message = .ok [value] ∧
      storeOf c value = .ok (.dictionary entries, fdr) ∧ entries ≠ [] := by
  obtain ⟨values, hvalues, h⟩ := of_bind_ok h
  split at h
  · obtain ⟨⟨store, bytes⟩, hstore, h⟩ := of_bind_ok h
    obtain ⟨entries, hentries, h⟩ := of_bind_ok h
    obtain ⟨hne, h⟩ := of_ite_error_ok h
    obtain rfl := Except.ok.inj h
    obtain rfl := eq_dictionary hentries
    exact ⟨_, entries, hvalues, hstore, fun he => hne (by rw [he]; rfl)⟩
  · cases h

lemma checkCommit_ok (h : checkCommit c message committed = .ok fdr)
    (hcommit : IsCommit message) : committed = none ∧ Accepts c message fdr := by
  obtain ⟨hfirst, h⟩ := of_ite_error_ok h
  obtain ⟨bytes, hpayload, h⟩ := of_bind_ok h
  refine ⟨Option.not_isSome_iff_eq_none.mp hfirst, ?_⟩
  split at h
  · next hnone =>
    obtain rfl := Except.ok.inj h
    exact ⟨hcommit, fdrPayload_ok hpayload, fun replay hr => by rw [hnone] at hr; cases hr⟩
  next given hgiven =>
  obtain ⟨store, hstore, h⟩ := of_bind_ok h
  obtain ⟨replayed, hreplayed, h⟩ := of_bind_ok h
  obtain ⟨hsame, h⟩ := of_ite_error_ok h
  obtain rfl := Except.ok.inj h
  have heq : store = replayed := eq_of_same (by simpa using hsame)
  refine ⟨hcommit, fdrPayload_ok hpayload, fun replay hr => ⟨store, hstore, ?_⟩⟩
  obtain rfl := Option.some.inj (hgiven.symm.trans hr)
  rw [heq, hreplayed]

/-- What a data request can come to, whatever follows.  Only a commit persists, and it is
answered only after that. -/
inductive Replied (c : Context) (message : Value) (committed : Option Packet) :
    List Effect → Option Packet → Prop
  | commit {fdr : Packet} : committed = none → Accepts c message fdr →
    Replied c message committed [.persist "FDRData" fdr (.ok ())] (some fdr)
  | other : ¬ IsCommit message → Replied c message committed [] committed

lemma dataReply_ok {next : Option Packet} (hkind : kindOf message = .ok "DataRequestMsg")
    (h : dataReply c message committed persisted = (effects, .ok (response, next))) :
    Replied c message committed effects next ∧ (IsCommit message → response = .dictionary []) := by
  unfold dataReply at h
  split at h
  · cases h
  next kind hdata =>
  split at h
  · next hcommit =>
    have his : IsCommit message := ⟨hkind, hcommit ▸ hdata⟩
    unfold acceptCommit at h
    cases hcheck : checkCommit c message committed with
    | error e => rw [hcheck] at h; cases h
    | ok bytes =>
      rw [hcheck] at h
      cases persisted with
      | error e => cases h
      | ok _ =>
        obtain ⟨hnone, haccepts⟩ := checkCommit_ok hcheck his
        cases h
        exact ⟨.commit hnone haccepts, fun _ => rfl⟩
  · next hother =>
    have hnot : ¬ IsCommit message := fun his => hother (Except.ok.inj (hdata.symm.trans his.2))
    cases hserved : served c kind message with
    | error e => rw [hserved] at h; cases h
    | ok value =>
      rw [hserved] at h
      cases h
      exact ⟨.other hnot, fun his => absurd his hnot⟩

/-- How a turn that does not fail goes on. -/
inductive Advance (c : Context) (x : Exchange) (turn : Turn) : List Effect → Pass → Prop
  | idle : turn.message = .ok none → Advance c x turn [] (.running x)
  | quiet {message : Value} {effects : List Effect} : turn.message = .ok (some message) →
    ¬ IsCommit message → Checked message →
    (∀ effect ∈ effects, ∃ response, effect = .reply message response) →
    Advance c x turn effects (.running { x with requests := x.requests + 1 })
  | commit {message : Value} {fdr : Packet} : turn.message = .ok (some message) →
    x.committed = none → Accepts c message fdr →
    Advance c x turn [.persist "FDRData" fdr (.ok ()), .reply message (.dictionary [])]
      (.running ⟨some fdr, x.requests + 1⟩)
  | final {message : Value} {fdr : Packet} : turn.message = .ok (some message) →
    x.committed = some fdr → fdr ≠ [] → Succeeds c message →
    Advance c x turn [.finalStatus] (.ended (.ok fdr))

lemma checkFinalStatus_ok (h : checkFinalStatus c message committed = .ok ())
    (hkind : kindOf message = .ok "StatusMsg") : Succeeds c message ∧ committed.getD [] ≠ [] := by
  obtain ⟨fields, hfields, h⟩ := of_bind_ok h
  obtain ⟨status, hstatus, h⟩ := of_bind_ok h
  obtain ⟨hgood, h⟩ := of_ite_error_ok h
  obtain ⟨hsome, -⟩ := of_ite_error_ok h
  rw [not_or, not_not] at hgood
  exact ⟨⟨hkind, hgood.1 ▸ hstatus, fields, eq_dictionary hfields, zero_of_nonzero hgood.2⟩, hsome⟩

lemma checkCheckpoint_ok (h : checkCheckpoint message = .ok ()) : Checked message := by
  obtain ⟨fields, hfields, h⟩ := of_bind_ok h
  obtain ⟨hgood, -⟩ := of_ite_error_ok h
  rw [not_or, Option.not_isSome_iff_eq_none] at hgood
  exact fun _ => ⟨fields, eq_dictionary hfields, hgood.1, zero_of_nonzero hgood.2⟩

/-- Step lemma: the turns that do not fail. -/
lemma handle_ok (hmessage : turn.message = .ok (some message))
    (h : handle c { x with requests := x.requests + 1 } turn message = (effects, .ok pass)) :
    Advance c x turn effects pass := by
  have hquiet {kind : String} (hkind : kindOf message = .ok kind) (hne : kind ≠ "DataRequestMsg") :
      ¬ IsCommit message := fun his => hne (Except.ok.inj (hkind.symm.trans his.1))
  have hchecked {kind : String} (hkind : kindOf message = .ok kind) (hne : kind ≠ "CheckpointMsg") :
      Checked message := fun his => absurd (Except.ok.inj (hkind.symm.trans his)) hne
  unfold handle at h
  split at h
  · cases h
  · next hkind =>
    split at h
    · cases h
    next effects' response next hreply =>
    obtain ⟨hreplied, hempty⟩ := dataReply_ok hkind hreply
    unfold reply at h
    split at h
    · cases h
    · cases hsent : turn.sent with
      | error e => rw [hsent] at h; cases h
      | ok _ =>
        rw [hsent] at h
        cases h
        cases hreplied with
        | commit hnone haccepts =>
          rw [hempty haccepts.asked]
          exact .commit hmessage hnone haccepts
        | other hnot =>
          exact .quiet hmessage hnot (hchecked hkind (by decide)) (by simp)
  · next hkind =>
    split at h
    · cases h
    next hstatus =>
    obtain ⟨hgood, hne⟩ := checkFinalStatus_ok hstatus hkind
    obtain ⟨heffects, hpass⟩ := Prod.mk.inj h
    obtain ⟨_, -, hpass⟩ := of_bind_ok hpass
    split at hpass
    · next fdr hfdr =>
      cases hpass
      subst heffects
      rw [show x.committed = some fdr from hfdr] at hne
      exact .final hmessage hfdr hne hgood
    · cases hpass
  · next hkind =>
    cases hcheck : checkCheckpoint message with
    | error e => rw [hcheck] at h; cases h
    | ok _ =>
      rw [hcheck] at h
      cases h
      exact .quiet hmessage (hquiet hkind (by decide)) (checkCheckpoint_ok hcheck) (by simp)
  · next hkind =>
    cases h
    exact .quiet hmessage (hquiet hkind (by decide)) (hchecked hkind (by decide)) (by simp)
  · next hkind =>
    cases h
    exact .quiet hmessage (hquiet hkind (by decide)) (hchecked hkind (by decide)) (by simp)
  · cases h

lemma turnOnce_ok (h : turnOnce c x turn = (effects, .ok pass)) :
    Advance c x turn effects pass := by
  unfold turnOnce at h
  split at h
  · cases h
  · next hidle =>
    cases h
    exact .idle hidle
  · next message hmessage =>
    split at h
    · cases h
    · exact handle_ok hmessage h

lemma dataReply_no_reply {other : Value} :
    .reply other response ∉ (dataReply c message committed persisted).1 := by
  unfold dataReply acceptCommit
  repeat' split
  all_goals simp

lemma reply_persisted (hcommit : IsCommit message)
    (h : .reply message response ∈ (turnOnce c x turn).1) : ∃ fdr, Accepts c message fdr ∧
      (turnOnce c x turn).1 = [.persist "FDRData" fdr (.ok ()), .reply message response] := by
  unfold turnOnce handle at h ⊢
  split at h
  · simp at h
  · simp at h
  split at h
  · simp at h
  simp only [if_neg ‹¬ _›]
  split at h
  · simp at h
  · next message' _ _ _ hkind =>
    split at h
    · next effects _ hreply => exact absurd (by rw [hreply]; exact h) dataReply_no_reply
    next effects response' next hreply =>
    simp only [hreply] at h ⊢
    rcases List.mem_append.mp h with hbad | h
    · exact absurd (by rw [hreply]; exact hbad) dataReply_no_reply
    unfold reply at h ⊢
    split at h
    · simp at h
    obtain ⟨rfl, rfl⟩ := Effect.reply.inj (List.mem_singleton.mp h)
    obtain ⟨hreplied, -⟩ := dataReply_ok hkind hreply
    cases hreplied with
    | commit _ haccepts => exact ⟨_, haccepts, rfl⟩
    | other hnot => exact absurd hcommit hnot
  · split at h <;> simp at h
  all_goals simp at h

/-! ### A whole pass -/

/-- A turn that goes on and commits nothing. -/
structure Quiet (e : Event) : Prop where
  message : ∃ message, e.input.message = .ok message ∧
    ∀ value ∈ message, ¬ IsCommit value ∧ Checked value
  effects : ∀ effect ∈ e.output, ∃ message response, effect = .reply message response

/-- The turn of the commit: its bytes are persisted, and then it is answered. -/
def Commits (c : Context) (e : Event) (fdr : Packet) : Prop :=
  ∃ message, e.input.message = .ok (some message) ∧ Accepts c message fdr ∧
    e.output = [.persist "FDRData" fdr (.ok ()), .reply message (.dictionary [])]

/-- The turn receives a final success and reports it. -/
def Finishes (c : Context) (e : Event) : Prop :=
  ∃ message, e.input.message = .ok (some message) ∧ Succeeds c message ∧ e.output = [.finalStatus]

/-- One of the turns commits, and the others are quiet. -/
def Once (c : Context) (tr : List Event) (fdr : Packet) : Prop :=
  ∃ before commit after, tr = before ++ commit :: after ∧ Commits c commit fdr ∧
    ∀ e ∈ before ++ after, Quiet e

/-- What the trace of a pass says about the store it committed. -/
def Account (c : Context) (tr : List Event) : Pass → Prop
  | .running ⟨none, _⟩ => ∀ e ∈ tr, Quiet e
  | .running ⟨some fdr, _⟩ => Once c tr fdr
  | .ended (.ok fdr) => ∃ earlier last, tr = earlier ++ [last] ∧ Once c earlier fdr ∧
    fdr ≠ [] ∧ Finishes c last
  | .ended (.error _) => True

lemma Once.snoc (h : Once c tr fdr) (he : Quiet e) : Once c (tr ++ [e]) fdr := by
  obtain ⟨before, commit, after, rfl, hcommit, hquiet⟩ := h
  refine ⟨before, commit, after ++ [e], by simp, hcommit, fun e' he' => ?_⟩
  rw [← List.append_assoc, List.mem_append, List.mem_singleton] at he'
  rcases he' with he' | rfl
  · exact hquiet e' he'
  · exact he

lemma Account.quiet {n m : ℕ} (h : Account c tr (.running ⟨committed, n⟩)) (he : Quiet e) :
    Account c (tr ++ [e]) (.running ⟨committed, m⟩) := by
  cases committed with
  | none =>
    exact List.forall_mem_append.mpr ⟨h, List.forall_mem_singleton.mpr he⟩
  | some fdr => exact Once.snoc h he

/-- Run lemma: in every pass the committed store was persisted by its one commit. -/
lemma Account.of_run
    (h : (machine c).Run (start c entered image ticket started).2 tr pass) : Account c tr pass := by
  refine h.history ?_ fun tr e _ he hacc => ?_
  · cases entered <;> cases image <;> cases ticket <;> cases started
    all_goals first | exact trivial | exact fun e he => absurd he List.not_mem_nil
  obtain ⟨⟨⟨committed, n⟩, hx⟩, hstep⟩ := he
  rw [hx] at hstep hacc
  obtain ⟨houtput, hafter⟩ := Prod.mk.inj hstep
  cases hturn : (turnOnce c ⟨committed, n⟩ e.input).2 with
  | error _ =>
    rw [hturn] at hafter
    rw [← hafter]
    trivial
  | ok next =>
    rw [hturn] at hafter
    have hadvance : Advance c ⟨committed, n⟩ e.input e.output next :=
      turnOnce_ok (Prod.ext houtput hturn)
    obtain rfl : next = e.after := hafter
    generalize e.after = pass' at hadvance ⊢
    generalize ho : e.output = effects at hadvance
    cases hadvance with
    | idle hm => exact hacc.quiet ⟨⟨_, hm, by simp⟩, by simp [ho]⟩
    | @quiet message _ hm hnot hchecked heffects =>
      exact hacc.quiet ⟨⟨_, hm, by rintro _ ⟨⟩; exact ⟨hnot, hchecked⟩⟩,
        fun effect he => ⟨message, heffects effect (ho ▸ he)⟩⟩
    | commit hm hnone haccepts =>
      obtain rfl : committed = none := hnone
      exact ⟨tr, e, [], rfl, ⟨_, hm, haccepts, ho⟩, by simpa [Account] using hacc⟩
    | final hm hsome hne hsucceeds =>
      obtain rfl : committed = some _ := hsome
      exact ⟨tr, e, rfl, hacc, hne, _, hm, hsucceeds, ho⟩

lemma Turn.open_of_message {found : Option Value} (h : turn.message = .ok found)
    (hnone : turn.received = .ok none) : turn.closed = .ok false := by
  obtain ⟨-, h⟩ := of_ite_error_ok h
  obtain ⟨_, -, h⟩ := of_bind_ok h
  rw [Except.ok_bind hnone] at h
  obtain ⟨closed, hclosed, h⟩ := of_bind_ok h
  rwa [Bool.eq_false_iff.mpr (of_ite_error_ok h).1] at hclosed

/-- A pass whose first files were not kept does not complete. -/
lemma kept_of_completed
    (h : (machine c).Run (start c entered image ticket started).2 tr (.ended (.ok fdr))) :
    image = .ok () ∧ ticket = .ok () := by
  have hfail (e : Error) (hs : (start c entered image ticket started).2 = .ended (.error e)) :
      False := by
    have hend := h.invariant (I := (· = .ended (.error e))) (fun s t _ hs => by rw [hs]; rfl) hs
    cases hend
  cases entered <;> cases image <;> cases ticket
  all_goals first | exact ⟨rfl, rfl⟩ | exact (hfail _ rfl).elim

/-- Whatever the device sends and whatever becomes of the operations of a pass, the pass
completes only with the bytes of the one commit among its turns.  They were persisted before
that commit was answered, they decode to the replayed store if there is one, and the final status
was good; no other turn was a commit, reported a checkpoint error or found the connection closed,
and no persist failed.  In every pass, completed or not, a commit is answered only after its
bytes were persisted. -/
theorem restore_completes_after_one_durable_commit (c : Context)
    (entered image ticket started : Except Error Unit) (tr : List Event) (pass : Pass)
    (hrun : (machine c).Run (start c entered image ticket started).2 tr pass) :
    (∀ fdr, pass = .ended (.ok fdr) → image = .ok () ∧ ticket = .ok () ∧ fdr ≠ [] ∧
      (∃ before commit after last, tr = before ++ commit :: after ++ [last] ∧
        Commits c commit fdr ∧ (∀ e ∈ before ++ after, Quiet e) ∧ Finishes c last) ∧
      ∀ e ∈ tr, e.input.received = .ok none → e.input.closed = .ok false) ∧
    ∀ e ∈ tr, ∀ message response, IsCommit message → .reply message response ∈ e.output →
      ∃ fdr, Accepts c message fdr ∧
        e.output = [.persist "FDRData" fdr (.ok ()), .reply message response] := by
  refine ⟨fun fdr hpass => ?_, fun e he message response hcommit hreply => ?_⟩
  · subst hpass
    obtain ⟨_, last, rfl, ⟨before, commit, after, rfl, hcommit, hquiet⟩, hne, hlast⟩ :=
      Account.of_run hrun
    have hmessage : ∀ e ∈ before ++ commit :: after ++ [last],
        ∃ found, e.input.message = .ok found := by
      intro e he
      simp only [List.append_assoc, List.cons_append, List.mem_append, List.mem_cons,
        List.not_mem_nil, or_false] at he
      rcases he with he | rfl | he | rfl
      · exact (hquiet e (by simp [he])).message.imp fun _ h => h.1
      · exact hcommit.elim fun _ h => ⟨_, h.1⟩
      · exact (hquiet e (by simp [he])).message.imp fun _ h => h.1
      · exact hlast.elim fun _ h => ⟨_, h.1⟩
    obtain ⟨himage, hticket⟩ := kept_of_completed hrun
    exact ⟨himage, hticket, hne, ⟨before, commit, after, last, rfl, hcommit, hquiet, hlast⟩,
      fun e he hnone => (hmessage e he).elim fun _ h => Turn.open_of_message h hnone⟩
  · obtain ⟨tr1, tr2, rfl⟩ := List.append_of_mem he
    obtain ⟨-, ⟨⟨x, hx⟩, hstep⟩, -⟩ := hrun.split
    rw [hx] at hstep
    have houtput : (turnOnce c x e.input).1 = e.output := congrArg Prod.fst hstep
    rw [← houtput] at hreply ⊢
    exact reply_persisted hcommit hreply

/-- A device that is served one request after another. -/
def serving (message : Value) : Turn :=
  ⟨false, .ok (), .ok (some message), .ok false, .ok (), .ok (), .ok (), .ok ()⟩

/-- The store that an earlier pass committed. -/
def storeBytes : Packet :=
  match Wire.encode (.dictionary [("Cal0", .data [7])]) with
  | .ok bytes => bytes
  | .error _ => []

def plain : Context :=
  ⟨fun bytes => (Wire.decode bytes).mapError fun _ => invalid, fun _ => none, .null, .ok [], [], [],
    fun _ => .ok [], some storeBytes⟩

def commitMessage : Value :=
  .dictionary [("Data", .data storeBytes), ("DataType", .string "FDRMemoryCommit"),
    ("MsgType", .string "DataRequestMsg")]

def statusMessage : Value :=
  .dictionary [("MsgType", .string "StatusMsg"), ("Status", .integer 0)]

theorem restore_completes_when_served :
    let first : Event := ⟨.running ⟨none, 0⟩, serving commitMessage,
      [.persist "FDRData" storeBytes (.ok ()), .reply commitMessage (.dictionary [])],
      .running ⟨some storeBytes, 1⟩⟩
    let last : Event := ⟨.running ⟨some storeBytes, 1⟩, serving statusMessage, [.finalStatus],
      .ended (.ok storeBytes)⟩
    (machine plain).Run (start plain (.ok ()) (.ok ()) (.ok ()) (.ok ())).2 [first, last]
      (.ended (.ok storeBytes)) ∧
    (∃ before commit after final, [first, last] = before ++ commit :: after ++ [final] ∧
      Commits plain commit storeBytes ∧ (∀ e ∈ before ++ after, Quiet e) ∧ Finishes plain final) ∧
    ∃ fdr, Accepts plain commitMessage fdr ∧ first.output =
      [.persist "FDRData" fdr (.ok ()), .reply commitMessage (.dictionary [])] := by
  intro first last
  have hfirst : (machine plain).Fires first := ⟨⟨_, rfl⟩, rfl⟩
  have hlast : (machine plain).Fires last := ⟨⟨_, rfl⟩, rfl⟩
  have hrun : (machine plain).Run (start plain (.ok ()) (.ok ()) (.ok ()) (.ok ())).2
      [first, last] (.ended (.ok storeBytes)) := Machine.Run.snoc (.snoc (.nil _) hfirst) hlast
  obtain ⟨hended, hreplied⟩ := restore_completes_after_one_durable_commit plain _ _ _ _ _ _ hrun
  exact ⟨hrun, (hended _ rfl).2.2.2.1,
    hreplied first List.mem_cons_self _ _ ⟨rfl, rfl⟩ (by simp [first])⟩

end Restore

end T1Bridge.Import
