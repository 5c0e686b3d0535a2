import GrinPlusPlus.Wallet.ReceiveSlateBuilder

/-!
# Receiving a slate twice

`ReceiveSlateBuilder::VerifySlateStatus` lets a slate be received again once
the transaction `Wallet::GetTxBySlateId` returns for its id is
`RECEIVED_CANCELED`.  Neither `GetTxBySlateId` nor the cancellation of a
transaction is in the sources, and a slate that was received, canceled and
received again has several transactions, so whether a slate can end up with two
live receives turns on which of them the lookup returns.

A run is a list of receives and cancellations applied one at a time, as the
wallet's write lock serialises them (`runWallet`).  When the lookup returns the
latest transaction of the slate id, every transaction of a slate id but the
latest stays canceled (`OnlyLatestLive`), so on every run each slate id has at
most one live transaction (`runWallet_latest_receivedOnce`).  When it returns
the oldest, a canceled first transaction stays first and keeps passing the
check, and each receive that returns adds one more live transaction
(`firstBySlateId_receive`).
-/

namespace GrinPlusPlus.Wallet

/-! ## Cancellation and lookups -/

/-- The cancellation of one transaction: a receive in progress with id
`walletTxId` becomes `RECEIVED_CANCELED`. -/
def cancelReceived (walletTxId : Nat) (tx : WalletTx) : WalletTx :=
  if tx.walletTxId = walletTxId ∧ tx.type = .RECEIVING_IN_PROGRESS then
    { tx with type := .RECEIVED_CANCELED }
  else tx

/-- Modelled from the spec: `Wallet::CancelTx`, which is not in the sources,
cancels the received transaction with id `walletTxId` and writes nothing else. -/
def CancelTx (db : WalletDB) (walletTxId : Nat) : WalletDB :=
  { db with transactions := db.transactions.map (cancelReceived walletTxId) }

@[simp] theorem cancelReceived_slateIdOpt (walletTxId : Nat) (tx : WalletTx) :
    (cancelReceived walletTxId tx).slateIdOpt = tx.slateIdOpt := by
  unfold cancelReceived
  split <;> rfl

theorem cancelReceived_of_canceled {walletTxId : Nat} {tx : WalletTx}
    (h : tx.type = .RECEIVED_CANCELED) : cancelReceived walletTxId tx = tx := by
  simp [cancelReceived, h]

/-- The transactions recorded for a slate id, oldest first. -/
def txsForSlate (txs : List WalletTx) (slateId : Uuid) : List WalletTx :=
  txs.filter (·.slateIdOpt == some slateId)

theorem txsForSlate_append (txs : List WalletTx) (tx : WalletTx) (slateId : Uuid) :
    txsForSlate (txs ++ [tx]) slateId =
      txsForSlate txs slateId ++ if tx.slateIdOpt = some slateId then [tx] else [] := by
  by_cases h : tx.slateIdOpt = some slateId <;> simp [txsForSlate, h]

theorem txsForSlate_CancelTx (db : WalletDB) (walletTxId : Nat) (slateId : Uuid) :
    txsForSlate (CancelTx db walletTxId).transactions slateId =
      (txsForSlate db.transactions slateId).map (cancelReceived walletTxId) := by
  simp [CancelTx, txsForSlate, List.filter_map, Function.comp_def]

/-- A `GetTxBySlateId` that returns the latest transaction of the slate id. -/
def latestBySlateId (txs : List WalletTx) (slateId : Uuid) : Option WalletTx :=
  (txsForSlate txs slateId).getLast?

/-- A `GetTxBySlateId` that returns the oldest transaction of the slate id. -/
def firstBySlateId (txs : List WalletTx) (slateId : Uuid) : Option WalletTx :=
  (txsForSlate txs slateId).head?

/-! ## Live transactions -/

/-- A transaction that is not `RECEIVED_CANCELED`: its output and signature
stand. -/
def WalletTx.Live (tx : WalletTx) : Bool :=
  tx.type != .RECEIVED_CANCELED

/-- The live transactions of a slate id. -/
def liveForSlate (db : WalletDB) (slateId : Uuid) : List WalletTx :=
  (txsForSlate db.transactions slateId).filter WalletTx.Live

/-- No slate is received twice: each slate id has at most one live transaction. -/
def ReceivedOnce (db : WalletDB) : Prop :=
  ∀ slateId, (liveForSlate db slateId).length ≤ 1

/-- Every transaction of a slate id but the latest is canceled. -/
def OnlyLatestLive (db : WalletDB) : Prop :=
  ∀ slateId, ∀ tx ∈ (txsForSlate db.transactions slateId).dropLast,
    tx.type = .RECEIVED_CANCELED

theorem mem_dropLast_or_getLast? {α : Type} {l : List α} {a : α} (h : a ∈ l) :
    a ∈ l.dropLast ∨ l.getLast? = some a := by
  obtain rfl | ⟨l', b, rfl⟩ := l.eq_nil_or_concat
  · cases h
  · rw [List.concat_eq_append] at h ⊢
    rw [List.dropLast_concat, List.getLast?_concat, Option.some.injEq]
    rcases List.mem_append.1 h with h | h
    · exact .inl h
    · exact .inr (List.mem_singleton.1 h).symm

theorem OnlyLatestLive.receivedOnce {db : WalletDB} (h : OnlyLatestLive db) : ReceivedOnce db := by
  intro slateId
  have hcanceled := h slateId
  unfold liveForSlate
  obtain hnil | ⟨l', b, hl⟩ := (txsForSlate db.transactions slateId).eq_nil_or_concat
  · simp [hnil]
  · rw [hl, List.concat_eq_append] at hcanceled ⊢
    rw [List.dropLast_concat] at hcanceled
    have hdead : l'.filter WalletTx.Live = [] :=
      List.filter_eq_nil_iff.2 fun a ha => by simp [WalletTx.Live, hcanceled a ha]
    rw [List.filter_append, hdead, List.nil_append]
    exact (List.length_filter_le _ _).trans (by simp)

/-! ## Runs -/

/-- What the wallet does under one take of its write lock. -/
inductive WalletEvent where
  | receive (env : ReceiveEnv) (slate : Slate) (addressOpt : Option String)
  | cancel (walletTxId : Nat)

section Runs

variable (GetTxBySlateId : List WalletTx → Uuid → Option WalletTx)

/-- One event on the database: a receive leaves what `AddReceiverData` leaves,
whether it returns or throws. -/
def WalletEvent.apply (db : WalletDB) : WalletEvent → WalletDB
  | .receive env slate addressOpt => (AddReceiverData GetTxBySlateId env db slate addressOpt).1
  | .cancel walletTxId => CancelTx db walletTxId

/-- A run of events, one at a time. -/
def runWallet (db : WalletDB) (events : List WalletEvent) : WalletDB :=
  events.foldl (WalletEvent.apply GetTxBySlateId) db

/-- A receive that returns adds one transaction, in progress and for the
slate's id. -/
theorem transactions_receive {env : ReceiveEnv} {db db' : WalletDB} {slate s : Slate}
    {addressOpt : Option String}
    (h : AddReceiverData GetTxBySlateId env db slate addressOpt = (db', .ok s)) :
    ∃ tx : WalletTx, tx.slateIdOpt = some slate.slateId ∧ tx.type = .RECEIVING_IN_PROGRESS ∧
      db'.transactions = db.transactions ++ [tx] := by
  obtain ⟨_, _, rfl⟩ := receiveInBatch_eq_ok (AddReceiverData_eq_ok GetTxBySlateId h).2
  exact ⟨_, rfl, rfl, rfl⟩

/-- Whatever the lookup, a receive that returns adds one live transaction to
the slate's id. -/
theorem liveForSlate_receive {env : ReceiveEnv} {db db' : WalletDB} {slate s : Slate}
    {addressOpt : Option String}
    (h : AddReceiverData GetTxBySlateId env db slate addressOpt = (db', .ok s)) :
    (liveForSlate db' slate.slateId).length = (liveForSlate db slate.slateId).length + 1 := by
  obtain ⟨tx, hid, htype, htxs⟩ := transactions_receive GetTxBySlateId h
  simp [liveForSlate, htxs, txsForSlate_append, hid, WalletTx.Live, htype]

/-- The check passed: the transaction the lookup returned is canceled. -/
theorem VerifySlateStatus_some {db : WalletDB} {slate : Slate} {tx : WalletTx}
    (hverify : VerifySlateStatus GetTxBySlateId db slate = true)
    (h : GetTxBySlateId db.transactions slate.slateId = some tx) :
    tx.type = .RECEIVED_CANCELED := by
  simpa [VerifySlateStatus, h] using hverify

end Runs

/-! ## The latest transaction -/

section Latest

variable {db : WalletDB}

theorem OnlyLatestLive.cancel (h : OnlyLatestLive db) (walletTxId : Nat) :
    OnlyLatestLive (CancelTx db walletTxId) := by
  intro slateId tx htx
  rw [txsForSlate_CancelTx, ← List.map_dropLast, List.mem_map] at htx
  obtain ⟨t, ht, rfl⟩ := htx
  rw [cancelReceived_of_canceled (h slateId t ht)]
  exact h slateId t ht

/-- A receive keeps every transaction of a slate id but the latest canceled:
the new transaction becomes the latest of its id, and the check let it in only
if the one before it was canceled. -/
theorem OnlyLatestLive.receive (h : OnlyLatestLive db) (env : ReceiveEnv) (slate : Slate)
    (addressOpt : Option String) :
    OnlyLatestLive (AddReceiverData latestBySlateId env db slate addressOpt).1 := by
  rcases hr : AddReceiverData latestBySlateId env db slate addressOpt with ⟨db', _ | s⟩
  · rwa [(AddReceiverData_eq_error latestBySlateId hr).1]
  · obtain ⟨tx, hid, -, htxs⟩ := transactions_receive latestBySlateId hr
    have hverify := (AddReceiverData_eq_ok latestBySlateId hr).1
    intro slateId t ht
    rw [htxs, txsForSlate_append] at ht
    split at ht
    case isFalse => exact h slateId t (by simpa using ht)
    case isTrue hsame =>
      obtain rfl : slateId = slate.slateId := Option.some.inj (hsame.symm.trans hid)
      rw [List.dropLast_concat] at ht
      rcases mem_dropLast_or_getLast? ht with ht | ht
      · exact h _ t ht
      · exact VerifySlateStatus_some latestBySlateId hverify ht

theorem OnlyLatestLive.runWallet (h : OnlyLatestLive db) (events : List WalletEvent) :
    OnlyLatestLive (runWallet latestBySlateId db events) := by
  induction events generalizing db with
  | nil => exact h
  | cons event events ih =>
    apply ih
    cases event with
    | receive env slate addressOpt => exact h.receive env slate addressOpt
    | cancel walletTxId => exact h.cancel walletTxId

/-- **No slate is received twice** when `GetTxBySlateId` returns the latest
transaction of the slate id.  From a wallet where every transaction of a slate
id but the latest is canceled (an empty one, say), every run of receives and
cancellations, and so every point of one, leaves each slate id at most one live
transaction. -/
theorem runWallet_latest_receivedOnce (h : OnlyLatestLive db) (events : List WalletEvent) :
    ReceivedOnce (runWallet latestBySlateId db events) :=
  (h.runWallet events).receivedOnce

end Latest

/-! ## The oldest transaction -/

/-- When `GetTxBySlateId` returns the oldest transaction of the slate id, a
receive that returns leaves that transaction first, so the check answers the
next receive of the slate as it answered this one, and it adds a live
transaction. -/
theorem firstBySlateId_receive {env : ReceiveEnv} {db db' : WalletDB} {slate s : Slate}
    {addressOpt : Option String} {tx : WalletTx}
    (hfirst : firstBySlateId db.transactions slate.slateId = some tx)
    (h : AddReceiverData firstBySlateId env db slate addressOpt = (db', .ok s)) :
    firstBySlateId db'.transactions slate.slateId = some tx ∧
      (liveForSlate db' slate.slateId).length = (liveForSlate db slate.slateId).length + 1 := by
  obtain ⟨_, -, -, htxs⟩ := transactions_receive firstBySlateId h
  refine ⟨?_, liveForSlate_receive firstBySlateId h⟩
  unfold firstBySlateId at hfirst ⊢
  rw [htxs, txsForSlate_append, List.head?_append, hfirst]
  rfl

/-- Received, canceled and received twice more, a slate has two live
transactions under the oldest-first lookup. -/
example :
    let env : ReceiveEnv :=
      ⟨fun keyChainPath walletTxId amount =>
          some ⟨keyChainPath, walletTxId, amount, ⟨0⟩,
            ⟨List.replicate 33 0, List.length_replicate _ _⟩,
            ⟨List.replicate 675 0, List.length_replicate _ _⟩⟩,
        some ⟨List.replicate 33 0, List.length_replicate _ _⟩,
        some ⟨List.replicate 33 0, List.length_replicate _ _⟩,
        some ⟨List.replicate 64 0, List.length_replicate _ _⟩, true, none, fun _ => none,
        fun _ => none, none⟩
    let slate := Slate.new ⟨List.replicate 16 0, List.length_replicate _ _⟩
    (liveForSlate (runWallet firstBySlateId ⟨0, 0, [], [], []⟩
      [.receive env slate none, .cancel 0, .receive env slate none, .receive env slate none])
      slate.slateId).length = 2 := by
  decide

end GrinPlusPlus.Wallet
