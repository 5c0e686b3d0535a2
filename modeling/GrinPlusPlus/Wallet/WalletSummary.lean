import Mathlib.Data.List.Basic
import Mathlib.Algebra.Group.Nat.Basic

/-!
# The wallet summary

`Wallet::GetWalletSummary` (`Wallet/Wallet.cpp`, lines 17-49) and
`WalletBalanceDTO::GetTotal` (`WalletBalanceDTO.h`).

The summary adds each refreshed output's amount to the `uint64_t` accumulator
of its status and adds three of the four for the total, all in `uint64_t`:
every field is the exact sum of its outputs' amounts modulo `2^64`
(`GetWalletSummary_mod`), and a wallet whose amounts reach `2^64` together,
such as one holding an unconfirmed output of a received slate with a large
amount, reports a wrapped balance (`GetWalletSummary_wraps`).

The outputs are what `WalletRefresher::RefreshOutputs` returns, and the chain
height and the minimum confirmations pass through unread: they are parameters.
`EOutputStatus`, `OutputData` and `WalletSummary` are declared in headers that
are not in the sources and are modelled with the members the summary uses.
-/

namespace GrinPlusPlus.Wallet

/-- `EOutputStatus`: the four statuses the summary counts, and the spent and
canceled outputs it skips. -/
inductive EOutputStatus where
  | SPENDABLE
  | IMMATURE
  | NO_CONFIRMATIONS
  | SPENT
  | LOCKED
  | CANCELED
  deriving DecidableEq, Repr

/-- `OutputData`: the amount and status `GetWalletSummary` reads. -/
structure OutputData where
  amount : UInt64
  status : EOutputStatus
  deriving DecidableEq, Repr

/-- The four `uint64_t` accumulators of `GetWalletSummary`. -/
structure Accumulators where
  awaitingConfirmation : UInt64
  immature : UInt64
  locked : UInt64
  spendable : UInt64
  deriving DecidableEq, Repr

/-- One pass of the loop: the amount goes to the accumulator of its status, if
it has one. -/
def addAmount (acc : Accumulators) (outputData : OutputData) : Accumulators :=
  match outputData.status with
  | .LOCKED => { acc with locked := acc.locked + outputData.amount }
  | .SPENDABLE => { acc with spendable := acc.spendable + outputData.amount }
  | .IMMATURE => { acc with immature := acc.immature + outputData.amount }
  | .NO_CONFIRMATIONS =>
    { acc with awaitingConfirmation := acc.awaitingConfirmation + outputData.amount }
  | _ => acc

/-- `WalletSummary`, in the order of its constructor's arguments. -/
structure WalletSummary where
  lastConfirmedHeight : UInt64
  minimumConfirmations : UInt64
  total : UInt64
  awaitingConfirmation : UInt64
  immature : UInt64
  locked : UInt64
  spendable : UInt64
  deriving DecidableEq, Repr

/-- `Wallet::GetWalletSummary` over the refreshed outputs. -/
def GetWalletSummary (lastConfirmedHeight minimumConfirmations : UInt64)
    (outputs : List OutputData) : WalletSummary :=
  let acc := outputs.foldl addAmount ⟨0, 0, 0, 0⟩
  let total := acc.awaitingConfirmation + acc.immature + acc.spendable
  ⟨lastConfirmedHeight, minimumConfirmations, total, acc.awaitingConfirmation, acc.immature,
    acc.locked, acc.spendable⟩

/-- `WalletBalanceDTO`. -/
structure WalletBalanceDTO where
  unconfirmed : UInt64
  immature : UInt64
  locked : UInt64
  spendable : UInt64
  deriving DecidableEq, Repr

/-- `WalletBalanceDTO::GetTotal`. -/
def WalletBalanceDTO.GetTotal (dto : WalletBalanceDTO) : UInt64 :=
  dto.unconfirmed + dto.immature + dto.spendable

/-- The exact sum of the amounts of the outputs with a status. -/
def amountWith (status : EOutputStatus) (outputs : List OutputData) : Nat :=
  (outputs.filter (·.status = status)).foldr (fun o sum => o.amount.toNat + sum) 0

/-! ## Sums modulo `2^64` -/

theorem toNat_add (a b : UInt64) : (a + b).toNat = (a.toNat + b.toNat) % 2 ^ 64 :=
  BitVec.toNat_add _ _

theorem toNat_mod (a : UInt64) : a.toNat % 2 ^ 64 = a.toNat :=
  Nat.mod_eq_of_lt a.toNat_lt_size

@[simp] theorem amountWith_nil (status : EOutputStatus) : amountWith status [] = 0 := rfl

theorem amountWith_cons (status : EOutputStatus) (o : OutputData) (outputs : List OutputData) :
    amountWith status (o :: outputs) =
      (if o.status = status then o.amount.toNat else 0) + amountWith status outputs := by
  by_cases h : o.status = status <;> simp [amountWith, List.filter_cons, h]

/-- One pass adds the amount to the accumulator of the output's status, modulo
`2^64`, and leaves the other three. -/
theorem addAmount_toNat (acc : Accumulators) (o : OutputData) :
    (addAmount acc o).awaitingConfirmation.toNat = (acc.awaitingConfirmation.toNat +
        if o.status = .NO_CONFIRMATIONS then o.amount.toNat else 0) % 2 ^ 64 ∧
      (addAmount acc o).immature.toNat =
        (acc.immature.toNat + if o.status = .IMMATURE then o.amount.toNat else 0) % 2 ^ 64 ∧
      (addAmount acc o).locked.toNat =
        (acc.locked.toNat + if o.status = .LOCKED then o.amount.toNat else 0) % 2 ^ 64 ∧
      (addAmount acc o).spendable.toNat =
        (acc.spendable.toNat + if o.status = .SPENDABLE then o.amount.toNat else 0) % 2 ^ 64 := by
  unfold addAmount
  split <;> simp_all [toNat_add, toNat_mod, -Nat.reducePow]

section Fold

variable (get : Accumulators → UInt64) (status : EOutputStatus)
  (hstep : ∀ acc o, (get (addAmount acc o)).toNat =
    ((get acc).toNat + if o.status = status then o.amount.toNat else 0) % 2 ^ 64)
include hstep

/-- An accumulator after the loop is its start plus its outputs' exact sum,
modulo `2^64`. -/
theorem toNat_foldl_addAmount (outputs : List OutputData) :
    ∀ acc, (get (outputs.foldl addAmount acc)).toNat =
      ((get acc).toNat + amountWith status outputs) % 2 ^ 64 := by
  induction outputs with
  | nil => intro acc; simp [toNat_mod, -Nat.reducePow]
  | cons o outputs ih =>
    intro acc
    rw [List.foldl_cons, ih, hstep, amountWith_cons, Nat.mod_add_mod, Nat.add_assoc]

end Fold

/-- **The summary sums modulo `2^64`.**  For every list of outputs, each of the
four balances is the exact sum of the amounts of its outputs modulo `2^64`, and
the total is the exact sum over the unconfirmed, immature and spendable outputs
modulo `2^64`, which is what `WalletBalanceDTO::GetTotal` computes from the
summary's fields. -/
theorem GetWalletSummary_mod (lastConfirmedHeight minimumConfirmations : UInt64)
    (outputs : List OutputData) :
    (GetWalletSummary lastConfirmedHeight minimumConfirmations outputs).locked.toNat =
        amountWith .LOCKED outputs % 2 ^ 64 ∧
      (GetWalletSummary lastConfirmedHeight minimumConfirmations outputs).spendable.toNat =
        amountWith .SPENDABLE outputs % 2 ^ 64 ∧
      (GetWalletSummary lastConfirmedHeight minimumConfirmations outputs).immature.toNat =
        amountWith .IMMATURE outputs % 2 ^ 64 ∧
      (GetWalletSummary lastConfirmedHeight minimumConfirmations
          outputs).awaitingConfirmation.toNat =
        amountWith .NO_CONFIRMATIONS outputs % 2 ^ 64 ∧
      (GetWalletSummary lastConfirmedHeight minimumConfirmations outputs).total.toNat =
        (amountWith .NO_CONFIRMATIONS outputs + amountWith .IMMATURE outputs +
          amountWith .SPENDABLE outputs) % 2 ^ 64 ∧
      (GetWalletSummary lastConfirmedHeight minimumConfirmations outputs).total =
        WalletBalanceDTO.GetTotal
          ⟨(GetWalletSummary lastConfirmedHeight minimumConfirmations
              outputs).awaitingConfirmation,
            (GetWalletSummary lastConfirmedHeight minimumConfirmations outputs).immature,
            (GetWalletSummary lastConfirmedHeight minimumConfirmations outputs).locked,
            (GetWalletSummary lastConfirmedHeight minimumConfirmations outputs).spendable⟩ := by
  have hawait := toNat_foldl_addAmount _ _ (fun acc o => (addAmount_toNat acc o).1) outputs
    ⟨0, 0, 0, 0⟩
  have himm := toNat_foldl_addAmount _ _ (fun acc o => (addAmount_toNat acc o).2.1) outputs
    ⟨0, 0, 0, 0⟩
  have hlock := toNat_foldl_addAmount _ _ (fun acc o => (addAmount_toNat acc o).2.2.1) outputs
    ⟨0, 0, 0, 0⟩
  have hspend := toNat_foldl_addAmount _ _ (fun acc o => (addAmount_toNat acc o).2.2.2) outputs
    ⟨0, 0, 0, 0⟩
  simp only [UInt64.toNat_zero, Nat.zero_add] at hawait himm hlock hspend
  refine ⟨hlock, hspend, himm, hawait, ?_, rfl⟩
  simp only [GetWalletSummary, toNat_add, hawait, himm, hspend, Nat.add_mod_mod, Nat.mod_add_mod]

/-- **The summary wraps.**  Two spendable outputs of `2^63` each report a
spendable balance of `0`, and an immature and a spendable output of `2^63` a
total of `0`. -/
theorem GetWalletSummary_wraps :
    (GetWalletSummary 0 0 [⟨9223372036854775808, .SPENDABLE⟩,
        ⟨9223372036854775808, .SPENDABLE⟩]).spendable.toNat ≠
      amountWith .SPENDABLE [⟨9223372036854775808, .SPENDABLE⟩,
        ⟨9223372036854775808, .SPENDABLE⟩] ∧
    (GetWalletSummary 0 0 [⟨9223372036854775808, .IMMATURE⟩,
        ⟨9223372036854775808, .SPENDABLE⟩]).total.toNat ≠
      amountWith .NO_CONFIRMATIONS [⟨9223372036854775808, .IMMATURE⟩,
          ⟨9223372036854775808, .SPENDABLE⟩] +
        amountWith .IMMATURE [⟨9223372036854775808, .IMMATURE⟩,
          ⟨9223372036854775808, .SPENDABLE⟩] +
        amountWith .SPENDABLE [⟨9223372036854775808, .IMMATURE⟩,
          ⟨9223372036854775808, .SPENDABLE⟩] := by
  decide

end GrinPlusPlus.Wallet
