import T1Bridge.Sep.Session

/-! # What a log shows

The transfers of a log are read back from it: what was sent with which token, what was received,
and which transfer answered which request.  `Dialogue` is the request that waits for an answer and
the pairs of requests and answers so far. -/

namespace T1Bridge.Sep

/-- The transfer that the operation sends. -/
def SepOp.sends : SepOp → Option Packet
  | exchange output _ | sendOnly output _ => some output
  | _ => none

def SepOp.IsTransfer : SepOp → Prop
  | exchange _ _ | sendOnly _ _ | receiveOnly _ => True
  | _ => False

instance (op : SepOp) : Decidable op.IsTransfer := by
  unfold SepOp.IsTransfer
  split <;> infer_instance

/-- The transfer that came in with the event. -/
def received : SepEvent → Option Packet
  | ⟨.exchange _ _, answer⟩ | ⟨.receiveOnly _, answer⟩ =>
    if answer.1 = .ok then some answer.2 else none
  | _ => none

variable (log : SepLog)

def outputs : List Packet := log.filterMap fun e => e.1.sends

def inputs : List Packet := log.filterMap received

def transfers : SepLog := log.filter fun e => decide e.1.IsTransfer

def tokenOf (output : Packet) : ℕ := (Relay.identityOf output).token.toNat

/-- The tokens on the wire. -/
def tokens : List ℕ := (outputs log).map tokenOf

/-- A transfer, the teardown or the clock failed, or what came in is no message. -/
def Fails : SepEvent → Prop
  | ⟨.exchange _ _, answer⟩ | ⟨.receiveOnly _, answer⟩ =>
    answer.1 ≠ .ok ∨ ∃ e, Relay.parse answer.2 Relay.bufferSize = .error e
  | ⟨.sendOnly _ _, status⟩ | ⟨.destroyTransport, status⟩ => status ≠ .ok
  | ⟨.monotonicMs, now⟩ => now = none

/-- The request that is awaited and the replies to those before it. -/
structure Dialogue where
  awaited : Option Packet
  answered : List (Packet × Packet)

namespace Dialogue

/-- A transfer comes in. -/
def receive (d : Dialogue) (input : Packet) : Dialogue :=
  match d.awaited with
  | none => d
  | some output =>
    if Relay.Answers output input then ⟨none, d.answered ++ [(output, input)]⟩ else d

def after (d : Dialogue) : SepEvent → Dialogue
  | ⟨.exchange output _, answer⟩ =>
    if answer.1 = .ok then (⟨some output, d.answered⟩ : Dialogue).receive answer.2
    else ⟨none, d.answered⟩
  | ⟨.receiveOnly _, answer⟩ => if answer.1 = .ok then d.receive answer.2 else d
  | _ => d

end Dialogue

def dialogue (log : SepLog) : Dialogue := log.foldl Dialogue.after ⟨none, []⟩

def answered (log : SepLog) : List (Packet × Packet) := (dialogue log).answered

variable {log} {log' : SepLog} {op : SepOp} {x : op.Answer}

@[simp] lemma outputs_append (log log' : SepLog) :
    outputs (log ++ log') = outputs log ++ outputs log' := List.filterMap_append

@[simp] lemma inputs_append (log log' : SepLog) :
    inputs (log ++ log') = inputs log ++ inputs log' := List.filterMap_append

@[simp] lemma transfers_append (log log' : SepLog) :
    transfers (log ++ log') = transfers log ++ transfers log' := List.filter_append _ _

lemma dialogue_snoc (log : SepLog) (e : SepEvent) :
    dialogue (log ++ [e]) = (dialogue log).after e := by
  unfold dialogue
  rw [List.foldl_append]
  rfl

lemma tokens_quiet (h : op.sends = none) : tokens (log ++ [⟨op, x⟩]) = tokens log := by
  simp [tokens, outputs, h]

lemma tokens_sends {output : Packet} (h : op.sends = some output) :
    tokens (log ++ [⟨op, x⟩]) = tokens log ++ [tokenOf output] := by
  simp [tokens, outputs, h]

end T1Bridge.Sep
