import GrinPlusPlus.Slate.Basic
import GrinPlusPlus.Except

/-!
# Receiving a slate

`ReceiveSlateBuilder::AddReceiverData` with `VerifySlateStatus`,
`BuildSignature`, `UpdatePaymentProof` and `UpdateDatabase`
(`ReceiveSlateBuilder.cpp`).

Under the wallet's write lock, `AddReceiverData` refuses a slate whose id the
wallet already holds in a transaction that is not `RECEIVED_CANCELED`, then
opens a write batch, takes the next child path and transaction id from it,
builds the output, signs, adds the output to the slate, signs the payment proof,
writes the output, a `RECEIVING_IN_PROGRESS` transaction and the slate to the
batch, and commits.  The batch buffers every write until `Commit` and is dropped
uncommitted when anything throws (`WalletSqlite::Commit`/`Rollback`), so the
database is left as it was on every throw and takes exactly the receive's writes
on success; and each exception comes from its own call: the status check, a
database call that fails, signing, the payment proof's checks, or a crypto or
key-chain call (`AddReceiverData_all_or_nothing`).

The wallet, crypto and key-chain calls are not in the sources: their outcomes
are the fields of `ReceiveEnv`, each of which may fail, and
`Wallet::GetTxBySlateId` is a parameter.  Keys, commitments and signatures are
opaque byte strings.  The transaction's creation time and the slate message
are left out.
-/

namespace GrinPlusPlus.Wallet

open Wire

/-- `EWalletTxType`, the types a receive and its cancellation produce. -/
inductive EWalletTxType where
  | RECEIVING_IN_PROGRESS
  | RECEIVED
  | RECEIVED_CANCELED
  deriving DecidableEq, Repr

/-- `WalletTx`, the fields `UpdateDatabase` sets. -/
structure WalletTx where
  walletTxId : Nat
  type : EWalletTxType
  slateIdOpt : Option Uuid
  addressOpt : Option String
  amountCredited : UInt64
  amountDebited : UInt64
  feeOpt : Option UInt64
  paymentProofOpt : Option SlatePaymentProof
  deriving DecidableEq, Repr

/-- `OutputDataEntity`: the output `CreateBlindedOutput` builds, at a child
index of the user path, for a transaction id and an amount. -/
structure OutputDataEntity where
  keyChainPath : Nat
  walletTxId : Nat
  amount : UInt64
  features : EOutputFeatures
  commitment : Commitment
  rangeProof : RangeProof
  deriving DecidableEq, Repr

/-- The wallet database: the child-path and transaction-id counters, and the
stored outputs, transactions and slates. -/
structure WalletDB where
  nextChildIndex : Nat
  nextTransactionId : Nat
  outputs : List OutputDataEntity
  transactions : List WalletTx
  slates : List Slate
  deriving DecidableEq, Repr

/-- The database calls of a receive. -/
inductive DbCall where
  | GetNextChildPath
  | GetNextTransactionId
  | AddOutputs
  | AddTransaction
  | SaveSlate
  | Commit
  deriving DecidableEq, Repr

/-- What `AddReceiverData` throws. -/
inductive WalletException where
  /-- "Failed to verify received slate." -/
  | alreadyReceived
  /-- "Failed to generate signature." -/
  | signatureGeneration
  /-- "Failed to verify signatures." -/
  | signatureVerification
  /-- `WALLET_EXCEPTION("")`: a payment proof and no Tor address. -/
  | noTorAddress
  /-- "Payment proof receiver address (...) does not match wallet's (...)". -/
  | receiverAddressMismatch
  /-- An error of the wallet database. -/
  | database (call : DbCall)
  /-- An error of the key chain or the crypto library. -/
  | crypto
  deriving DecidableEq, Repr

/-- What the rest of the wallet answers during one receive; `none` is a call
that throws. -/
structure ReceiveEnv where
  /-- `Wallet::CreateBlindedOutput` at a child index, a transaction id and an amount. -/
  CreateBlindedOutput : Nat → Nat → UInt64 → Option OutputDataEntity
  /-- `Crypto::CalculatePublicKey` of the output's blinding factor. -/
  excess : Option PublicKey
  /-- `Crypto::GenerateSecureNonce` and `Crypto::CalculatePublicKey` of the nonce. -/
  nonce : Option PublicKey
  /-- `SignatureUtil::GeneratePartialSignature`. -/
  partialSignature : Option CompactSignature
  /-- `SignatureUtil::VerifyPartialSignatures`. -/
  signaturesVerify : Bool
  /-- `Wallet::GetTorAddress`. -/
  torAddress : Option ED25519PublicKey
  /-- `SlateUtil::CalculateFinalExcess`. -/
  CalculateFinalExcess : Slate → Option Commitment
  /-- `ED25519::Sign` of a message with the key chain's Tor key `m/0/1/0`
  (`KeyChain::FromSeed` and `DeriveED25519Key` included). -/
  Sign : List UInt8 → Option ED25519Signature
  /-- The database call that fails, if one does. -/
  dbError : Option DbCall

/-! ## The batch -/

/-- A call on the write batch: it fails if it is `env.dbError`, and otherwise
applies `f` to the batch. -/
def dbCall {α : Type} (env : ReceiveEnv) (call : DbCall) (f : WalletDB → α × WalletDB)
    (batch : WalletDB) : Except WalletException (α × WalletDB) :=
  if env.dbError = some call then .error (.database call) else .ok (f batch)

/-- `IWalletDB::GetNextChildPath`. -/
def GetNextChildPath (env : ReceiveEnv) : WalletDB → Except WalletException (Nat × WalletDB) :=
  dbCall env .GetNextChildPath fun db =>
    (db.nextChildIndex, { db with nextChildIndex := db.nextChildIndex + 1 })

/-- `IWalletDB::GetNextTransactionId`. -/
def GetNextTransactionId (env : ReceiveEnv) :
    WalletDB → Except WalletException (Nat × WalletDB) :=
  dbCall env .GetNextTransactionId fun db =>
    (db.nextTransactionId, { db with nextTransactionId := db.nextTransactionId + 1 })

/-- `IWalletDB::AddOutputs`. -/
def AddOutputs (env : ReceiveEnv) (outputs : List OutputDataEntity) :
    WalletDB → Except WalletException (Unit × WalletDB) :=
  dbCall env .AddOutputs fun db => ((), { db with outputs := db.outputs ++ outputs })

/-- `IWalletDB::AddTransaction`. -/
def AddTransaction (env : ReceiveEnv) (walletTx : WalletTx) :
    WalletDB → Except WalletException (Unit × WalletDB) :=
  dbCall env .AddTransaction fun db =>
    ((), { db with transactions := db.transactions ++ [walletTx] })

/-- `IWalletDB::SaveSlate`. -/
def SaveSlate (env : ReceiveEnv) (slate : Slate) :
    WalletDB → Except WalletException (Unit × WalletDB) :=
  dbCall env .SaveSlate fun db => ((), { db with slates := db.slates ++ [slate] })

/-- `WalletSqlite::Commit`: the batch becomes the database. -/
def Commit (env : ReceiveEnv) (batch : WalletDB) : Except WalletException WalletDB :=
  if env.dbError = some .Commit then .error (.database .Commit) else .ok batch

/-! ## The receive -/

section Receive

variable (GetTxBySlateId : List WalletTx → Uuid → Option WalletTx)

/-- `ReceiveSlateBuilder::VerifySlateStatus`: the slate was never received, or
its transaction was canceled. -/
def VerifySlateStatus (db : WalletDB) (slate : Slate) : Bool :=
  match GetTxBySlateId db.transactions slate.slateId with
  | some walletTx => walletTx.type == .RECEIVED_CANCELED
  | none => true

/-- `ReceiveSlateBuilder::BuildSignature`: the slate with the receiver's
signature added, and that signature. -/
def BuildSignature (env : ReceiveEnv) (slate : Slate) :
    Except WalletException (Slate × SlateSignature) := do
  let some excess := env.excess | throw .crypto
  let some nonce := env.nonce | throw .crypto
  let slate := { slate with sigs := slate.sigs ++ [(⟨excess, nonce, none⟩ : SlateSignature)] }
  let some partialSignature := env.partialSignature | throw .signatureGeneration
  let signature : SlateSignature := ⟨excess, nonce, some partialSignature⟩
  let slate := { slate with sigs := slate.sigs.dropLast ++ [signature] }
  if !env.signaturesVerify then throw .signatureVerification
  return (slate, signature)

/-- `ReceiveSlateBuilder::UpdatePaymentProof`: the receiver signs
`amount | kernel commitment | sender address`. -/
def UpdatePaymentProof (env : ReceiveEnv) (receiveSlate : Slate) :
    Except WalletException Slate :=
  match receiveSlate.proofOpt, env.torAddress with
  | none, _ => pure receiveSlate
  | some _, none => throw .noTorAddress
  | some proof, some torAddress =>
    if proof.receiverAddress ≠ torAddress then throw .receiverAddressMismatch
    else do
      let some kernelCommitment := env.CalculateFinalExcess receiveSlate | throw .crypto
      let message :=
        u64.write receiveSlate.amount ++ kernelCommitment.data ++ proof.senderAddress.data
      let some signature := env.Sign message | throw .crypto
      pure { receiveSlate with
        proofOpt := some { proof with receiverSignatureOpt := some signature } }

/-- `ReceiveSlateBuilder::UpdateDatabase`, on the batch. -/
def UpdateDatabase (env : ReceiveEnv) (receiveSlate : Slate) (signature : SlateSignature)
    (outputData : OutputDataEntity) (walletTxId : Nat) (addressOpt : Option String)
    (batch : WalletDB) : Except WalletException (Slate × WalletDB) := do
  let ((), batch) ← AddOutputs env [outputData] batch
  let walletTx : WalletTx :=
    ⟨walletTxId, .RECEIVING_IN_PROGRESS, some receiveSlate.slateId, addressOpt,
      receiveSlate.amount, 0, some receiveSlate.fee, receiveSlate.proofOpt⟩
  let ((), batch) ← AddTransaction env walletTx batch
  let receiveSlate := { receiveSlate with amount := 0, fee := 0, sigs := [signature] }
  let ((), batch) ← SaveSlate env receiveSlate batch
  return (receiveSlate, batch)

/-- The body of `AddReceiverData` from `BatchWrite()` to `Commit()`: every
write goes to the batch, which starts as a copy of the database. -/
def receiveInBatch (env : ReceiveEnv) (db : WalletDB) (receiveSlate : Slate)
    (addressOpt : Option String) : Except WalletException (Slate × WalletDB) := do
  let (keyChainPath, batch) ← GetNextChildPath env db
  let (walletTxId, batch) ← GetNextTransactionId env batch
  let some outputData := env.CreateBlindedOutput keyChainPath walletTxId receiveSlate.amount
    | throw .crypto
  let (receiveSlate, signature) ← BuildSignature env receiveSlate
  let outputCommit : SlateCommitment :=
    ⟨outputData.features, outputData.commitment, some outputData.rangeProof⟩
  let receiveSlate :=
    { receiveSlate with commitments := receiveSlate.commitments ++ [outputCommit] }
  let receiveSlate ← UpdatePaymentProof env receiveSlate
  let (receiveSlate, batch) ←
    UpdateDatabase env receiveSlate signature outputData walletTxId addressOpt batch
  let db ← Commit env batch
  return (receiveSlate, db)

/-- `ReceiveSlateBuilder::AddReceiverData` on the database `db`: the database
afterwards, and the received slate or the exception.  A batch dropped
uncommitted leaves `db` as it was. -/
def AddReceiverData (env : ReceiveEnv) (db : WalletDB) (slate : Slate)
    (addressOpt : Option String) : WalletDB × Except WalletException Slate :=
  let receiveSlate := { slate with stage := .STANDARD_RECEIVED }
  if !VerifySlateStatus GetTxBySlateId db receiveSlate then (db, .error .alreadyReceived)
  else
    match receiveInBatch env db receiveSlate addressOpt with
    | .ok (receiveSlate, db') => (db', .ok receiveSlate)
    | .error e => (db, .error e)

/-! ## What each exception comes from -/

/-- The cause of each exception a receive of `slate` on `db` can throw. -/
def ThrowsFrom (env : ReceiveEnv) (db : WalletDB) (slate : Slate) : WalletException → Prop
  | .alreadyReceived => VerifySlateStatus GetTxBySlateId db slate = false
  | .signatureGeneration => env.partialSignature = none
  | .signatureVerification => env.signaturesVerify = false
  | .noTorAddress => slate.proofOpt.isSome ∧ env.torAddress = none
  | .receiverAddressMismatch => ∃ proof torAddress, slate.proofOpt = some proof ∧
      env.torAddress = some torAddress ∧ proof.receiverAddress ≠ torAddress
  | .database call => env.dbError = some call
  | .crypto =>
    env.CreateBlindedOutput db.nextChildIndex db.nextTransactionId slate.amount = none ∨
      env.excess = none ∨ env.nonce = none ∨
      slate.proofOpt.isSome ∧
        ((∃ s, env.CalculateFinalExcess s = none) ∨ ∃ message, env.Sign message = none)

theorem dbCall_eq_ok {α : Type} {env : ReceiveEnv} {call : DbCall}
    {f : WalletDB → α × WalletDB} {batch : WalletDB} {r : α × WalletDB} :
    dbCall env call f batch = .ok r ↔ env.dbError ≠ some call ∧ f batch = r := by
  unfold dbCall
  split <;> simp [*]

theorem dbCall_eq_error {α : Type} {env : ReceiveEnv} {call : DbCall}
    {f : WalletDB → α × WalletDB} {batch : WalletDB} {e : WalletException} :
    dbCall env call f batch = .error e ↔ env.dbError = some call ∧ e = .database call := by
  unfold dbCall
  split <;> simp_all [eq_comm]

theorem Commit_eq_ok {env : ReceiveEnv} {batch db : WalletDB} :
    Commit env batch = .ok db ↔ env.dbError ≠ some .Commit ∧ batch = db := by
  unfold Commit
  split <;> simp [*]

theorem Commit_eq_error {env : ReceiveEnv} {batch : WalletDB} {e : WalletException} :
    Commit env batch = .error e ↔ env.dbError = some .Commit ∧ e = .database .Commit := by
  unfold Commit
  split <;> simp_all [eq_comm]

/-- Signing adds the receiver's signature and changes nothing else. -/
theorem BuildSignature_eq_ok {env : ReceiveEnv} {slate s : Slate} {signature : SlateSignature}
    (h : BuildSignature env slate = .ok (s, signature)) :
    s = { slate with sigs := slate.sigs ++ [signature] } := by
  simp only [BuildSignature] at h
  cases hx : env.excess <;> cases hn : env.nonce <;> cases hp : env.partialSignature <;>
    cases hv : env.signaturesVerify <;>
    simp [hx, hn, hp, hv, bind, Except.bind, pure, Except.pure, throw, throwThe,
      MonadExceptOf.throw, Functor.map, Except.map] at h
  obtain ⟨rfl, rfl⟩ := h
  rfl

/-- Signing throws only when a public key, the partial signature or its
verification fails. -/
theorem BuildSignature_eq_error {env : ReceiveEnv} {slate : Slate} {e : WalletException}
    (h : BuildSignature env slate = .error e) (db : WalletDB) (slate₀ : Slate) :
    ThrowsFrom GetTxBySlateId env db slate₀ e := by
  simp only [BuildSignature] at h
  cases hx : env.excess with
  | none => simp only [hx] at h; cases h; exact .inr (.inl hx)
  | some excess =>
    cases hn : env.nonce with
    | none => simp only [hx, hn] at h; cases h; exact .inr (.inr (.inl hn))
    | some nonce =>
      cases hp : env.partialSignature with
      | none => simp only [hx, hn, hp] at h; cases h; exact hp
      | some partialSignature =>
        cases hv : env.signaturesVerify
        · simp only [hx, hn, hp, hv] at h; cases h; exact hv
        · simp only [hx, hn, hp, hv] at h; cases h

/-- The payment proof step changes only the proof. -/
theorem UpdatePaymentProof_eq_ok {env : ReceiveEnv} {receiveSlate s : Slate}
    (h : UpdatePaymentProof env receiveSlate = .ok s) :
    s = { receiveSlate with proofOpt := s.proofOpt } := by
  unfold UpdatePaymentProof at h
  split at h
  · cases h; rfl
  · cases h
  · split at h
    · cases h
    · simp only [Except.bind_eq_ok_iff] at h
      split at h
      · split at h
        · cases h; rfl
        · cases h
      · cases h

/-- The payment proof step throws only for a slate with a proof: when the wallet
has no Tor address or another one, or a crypto or key-chain call fails. -/
theorem UpdatePaymentProof_eq_error {env : ReceiveEnv} {receiveSlate : Slate}
    {e : WalletException} (h : UpdatePaymentProof env receiveSlate = .error e) (db : WalletDB)
    (slate : Slate) (hproof : receiveSlate.proofOpt = slate.proofOpt) :
    ThrowsFrom GetTxBySlateId env db slate e := by
  unfold UpdatePaymentProof at h
  split at h
  · cases h
  · rename_i proof hp htor
    cases h
    exact ⟨by rw [← hproof, hp]; rfl, htor⟩
  · rename_i proof torAddress hp htor
    rw [hproof] at hp
    split at h
    · cases h
      exact ⟨proof, torAddress, hp, htor, ‹_›⟩
    · have hsome : slate.proofOpt.isSome := by rw [hp]; rfl
      cases hk : env.CalculateFinalExcess receiveSlate with
      | none =>
        simp only [hk, Except.bind_eq_error_iff] at h
        cases h
        exact .inr (.inr (.inr ⟨hsome, .inl ⟨_, hk⟩⟩))
      | some kernelCommitment =>
        cases hs : env.Sign (u64.write receiveSlate.amount ++ kernelCommitment.data ++
            proof.senderAddress.data) with
        | none =>
          simp only [hk, hs] at h
          cases h
          exact .inr (.inr (.inr ⟨hsome, .inr ⟨_, hs⟩⟩))
        | some signature =>
          simp only [hk, hs] at h
          cases h

/-- `UpdateDatabase` writes the output, the transaction and the slate to the batch. -/
theorem UpdateDatabase_eq_ok {env : ReceiveEnv} {receiveSlate s : Slate}
    {signature : SlateSignature} {outputData : OutputDataEntity} {walletTxId : Nat}
    {addressOpt : Option String} {batch batch' : WalletDB}
    (h : UpdateDatabase env receiveSlate signature outputData walletTxId addressOpt batch =
      .ok (s, batch')) :
    s = { receiveSlate with amount := 0, fee := 0, sigs := [signature] } ∧
      batch' = { batch with
        outputs := batch.outputs ++ [outputData]
        transactions := batch.transactions ++
          [⟨walletTxId, .RECEIVING_IN_PROGRESS, some receiveSlate.slateId, addressOpt,
            receiveSlate.amount, 0, some receiveSlate.fee, receiveSlate.proofOpt⟩]
        slates := batch.slates ++ [s] } := by
  simp only [UpdateDatabase, AddOutputs, AddTransaction, SaveSlate, Except.bind_eq_ok_iff,
    dbCall_eq_ok] at h
  obtain ⟨_, ⟨-, rfl⟩, _, ⟨-, rfl⟩, _, ⟨-, rfl⟩, h⟩ := h
  obtain ⟨rfl, rfl⟩ := Prod.mk.inj (Except.pure_eq_ok_iff.mp h)
  exact ⟨rfl, rfl⟩

/-- `UpdateDatabase` throws only when one of its database calls fails. -/
theorem UpdateDatabase_eq_error {env : ReceiveEnv} {receiveSlate : Slate}
    {signature : SlateSignature} {outputData : OutputDataEntity} {walletTxId : Nat}
    {addressOpt : Option String} {batch : WalletDB} {e : WalletException}
    (h : UpdateDatabase env receiveSlate signature outputData walletTxId addressOpt batch =
      .error e) : ∃ call, env.dbError = some call ∧ e = .database call := by
  simp only [UpdateDatabase, AddOutputs, AddTransaction, SaveSlate, Except.bind_eq_error_iff,
    Except.bind_eq_ok_iff, dbCall_eq_ok, dbCall_eq_error] at h
  rcases h with h | ⟨_, -, h | ⟨_, -, h | ⟨_, -, h⟩⟩⟩
  · exact ⟨_, h⟩
  · exact ⟨_, h⟩
  · exact ⟨_, h⟩
  · cases h

/-- A successful batch takes both counters, writes the output built at them,
the `RECEIVING_IN_PROGRESS` transaction and the slate, and is committed. -/
theorem receiveInBatch_eq_ok {env : ReceiveEnv} {db db' : WalletDB} {receiveSlate s : Slate}
    {addressOpt : Option String} (h : receiveInBatch env db receiveSlate addressOpt = .ok (s, db')) :
    ∃ outputData, env.CreateBlindedOutput db.nextChildIndex db.nextTransactionId
        receiveSlate.amount = some outputData ∧
      db' = { nextChildIndex := db.nextChildIndex + 1
              nextTransactionId := db.nextTransactionId + 1
              outputs := db.outputs ++ [outputData]
              transactions := db.transactions ++
                [⟨db.nextTransactionId, .RECEIVING_IN_PROGRESS, some receiveSlate.slateId, addressOpt,
                  receiveSlate.amount, 0, some receiveSlate.fee, s.proofOpt⟩]
              slates := db.slates ++ [s] } := by
  simp only [receiveInBatch, GetNextChildPath, GetNextTransactionId, Except.bind_eq_ok_iff,
    dbCall_eq_ok] at h
  obtain ⟨_, ⟨-, rfl⟩, _, ⟨-, rfl⟩, h⟩ := h
  split at h
  · rename_i outputData hout
    simp only [Except.bind_eq_ok_iff] at h
    obtain ⟨⟨_, signature⟩, hsig, _, hproof, ⟨_, _⟩, hdb, _, hcommit, h⟩ := h
    obtain ⟨rfl, rfl⟩ := Prod.mk.inj (Except.pure_eq_ok_iff.mp h)
    obtain ⟨-, rfl⟩ := Commit_eq_ok.mp hcommit
    obtain rfl := BuildSignature_eq_ok hsig
    have hframe := UpdatePaymentProof_eq_ok hproof
    obtain ⟨rfl, rfl⟩ := UpdateDatabase_eq_ok hdb
    refine ⟨outputData, hout, ?_⟩
    simp only [congrArg Slate.slateId hframe, congrArg Slate.amount hframe,
      congrArg Slate.fee hframe]
  · cases h

/-- A batch throws only for a database call that fails, a crypto or key-chain
call that fails, signing, or the payment proof's checks. -/
theorem receiveInBatch_eq_error {env : ReceiveEnv} {db : WalletDB} {receiveSlate : Slate}
    {addressOpt : Option String} {e : WalletException}
    (h : receiveInBatch env db receiveSlate addressOpt = .error e) :
    ThrowsFrom GetTxBySlateId env db receiveSlate e := by
  simp only [receiveInBatch, GetNextChildPath, GetNextTransactionId, Except.bind_eq_error_iff,
    Except.bind_eq_ok_iff, dbCall_eq_ok, dbCall_eq_error] at h
  rcases h with ⟨hdb, rfl⟩ | ⟨_, ⟨-, rfl⟩, ⟨hdb, rfl⟩ | ⟨_, ⟨-, rfl⟩, h⟩⟩
  · exact hdb
  · exact hdb
  split at h
  · simp only [Except.bind_eq_error_iff, Except.bind_eq_ok_iff] at h
    rcases h with
      h | ⟨⟨slate₁, signature⟩, hsig, h | ⟨_, hproof, h | ⟨_, -, h | ⟨_, -, h⟩⟩⟩⟩
    · exact BuildSignature_eq_error GetTxBySlateId h db receiveSlate
    · refine UpdatePaymentProof_eq_error GetTxBySlateId h db receiveSlate ?_
      rw [BuildSignature_eq_ok hsig]
    · obtain ⟨call, hcall, rfl⟩ := UpdateDatabase_eq_error h
      exact hcall
    · obtain ⟨hcommit, rfl⟩ := Commit_eq_error.mp h
      exact hcommit
    · cases h
  · cases h
    exact .inl (Option.eq_none_iff_forall_not_mem.mpr ‹_›)

/-- A receive that throws leaves the database as it was: the batch is dropped. -/
theorem AddReceiverData_eq_error {env : ReceiveEnv} {db db' : WalletDB} {slate : Slate}
    {addressOpt : Option String} {e : WalletException}
    (h : AddReceiverData GetTxBySlateId env db slate addressOpt = (db', .error e)) :
    db' = db ∧ ThrowsFrom GetTxBySlateId env db slate e := by
  dsimp only [AddReceiverData] at h
  split at h
  · rename_i hverify
    obtain ⟨rfl, h⟩ := Prod.mk.inj h
    cases h
    exact ⟨rfl, by simpa [VerifySlateStatus] using hverify⟩
  · split at h
    · cases h
    · rename_i herr
      obtain ⟨rfl, h⟩ := Prod.mk.inj h
      cases h
      -- the stage is the only field the receive slate changes, and no cause reads it
      have hcause := receiveInBatch_eq_error GetTxBySlateId herr
      exact ⟨rfl, hcause⟩

/-- A receive that returns has passed the status check, and the database is its
committed batch. -/
theorem AddReceiverData_eq_ok {env : ReceiveEnv} {db db' : WalletDB} {slate s : Slate}
    {addressOpt : Option String}
    (h : AddReceiverData GetTxBySlateId env db slate addressOpt = (db', .ok s)) :
    VerifySlateStatus GetTxBySlateId db slate = true ∧
      receiveInBatch env db { slate with stage := .STANDARD_RECEIVED } addressOpt =
        .ok (s, db') := by
  dsimp only [AddReceiverData] at h
  split at h
  · cases h
  · rename_i hverify
    split at h
    · rename_i hok
      obtain ⟨rfl, h⟩ := Prod.mk.inj h
      cases h
      exact ⟨by simpa using hverify, hok⟩
    · cases h

/-- **All or nothing.**  Whatever the wallet, the crypto and the database
answer, `AddReceiverData` either throws and leaves the database as it was, or
returns the received slate `s` having committed together exactly this: both
counters advanced, the output built at the child index and transaction id it
took, a `RECEIVING_IN_PROGRESS` transaction for the slate id, and `s`.  Each
exception comes from its own cause: `alreadyReceived` from the status check,
`database c` from the call `c` failing, the signature errors from signing, the
payment proof errors from its checks, and `crypto` from a crypto or key-chain
call. -/
theorem AddReceiverData_all_or_nothing (env : ReceiveEnv) (db : WalletDB) (slate : Slate)
    (addressOpt : Option String) :
    (∀ e db', AddReceiverData GetTxBySlateId env db slate addressOpt = (db', .error e) →
      db' = db) ∧
    (∀ s db', AddReceiverData GetTxBySlateId env db slate addressOpt = (db', .ok s) →
      ∃ outputData, env.CreateBlindedOutput db.nextChildIndex db.nextTransactionId
          slate.amount = some outputData ∧
        db' = { nextChildIndex := db.nextChildIndex + 1
                nextTransactionId := db.nextTransactionId + 1
                outputs := db.outputs ++ [outputData]
                transactions := db.transactions ++
                  [⟨db.nextTransactionId, .RECEIVING_IN_PROGRESS, some slate.slateId, addressOpt,
                    slate.amount, 0, some slate.fee, s.proofOpt⟩]
                slates := db.slates ++ [s] }) ∧
    (∀ e db', AddReceiverData GetTxBySlateId env db slate addressOpt = (db', .error e) →
      ThrowsFrom GetTxBySlateId env db slate e) :=
  ⟨fun _ _ h => (AddReceiverData_eq_error GetTxBySlateId h).1,
    fun _ _ h => by
      have hbatch := receiveInBatch_eq_ok (AddReceiverData_eq_ok GetTxBySlateId h).2
      exact hbatch,
    fun _ _ h => (AddReceiverData_eq_error GetTxBySlateId h).2⟩

end Receive

end GrinPlusPlus.Wallet
