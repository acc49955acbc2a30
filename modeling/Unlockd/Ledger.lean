/-
The two ledgers of debt agree.

The debt tokens keep a scaled balance for each user, the loan contract a scaled amount for
each loan, and each of the two rounds on its own. They agree because every operation that
touches one touches the other by the same amount, and because settling a loan in full scales
its outstanding amount back to exactly its scaled amount.
-/
import Unlockd.Invariants

set_option autoImplicit false

namespace Unlockd

open Outcome Registry LendPoolLoan

variable {D : Deployment} {s s' : State}

/-- The balance of every user is what the live loans of that user make it owe. -/
def Ledger (s : State) : Prop :=
  ∀ r u, (s.debtTokens r).scaledBalanceOf u = s.lendPoolLoan.registry.total (LoanData.owed r u)

/-- A liquidation through the adapter, as a step. -/
def Action.isSale : Action D → Bool
  | .call _ _ c => c.isSale
  | _ => false

/-- Any action but a liquidation through the adapter. -/
def noSale (_ : State) (a : Action D) : Prop := a.isSale = false

/-- The loans under the identifiers handed out that are live, against a reserve and of a user. -/
def LendPoolLoan.liveLoans (L : LendPoolLoan) (r u : Address) : Finset ℕ :=
  (Finset.Ico 1 L.loanIdTracker).filter fun id =>
    (L.loans id).live ∧ (L.loans id).reserveAsset = r ∧ (L.loans id).borrower = u

/-- What the live loans of a user make it owe is the sum of their scaled amounts. -/
theorem total_owed (L : LendPoolLoan) (r u : Address) :
    L.registry.total (LoanData.owed r u) = ∑ id ∈ L.liveLoans r u, (L.loans id).scaledAmount :=
  Tally.tally_ite L.registry.ids (fun l : LoanData => l.live ∧ l.reserveAsset = r ∧ l.borrower = u)
    LoanData.scaledAmount L.registry.records

/-! ## One step -/

/-- The ledgers stay in step when the debt tokens follow the loans. -/
theorem DebtsFollow.ledger {lo ln : Option LoanData} (hd : DebtsFollow s s' lo ln)
    (m : LoanMove s.lendPoolLoan s'.lendPoolLoan lo ln) (h : Books D s) (hl : Ledger s) :
    Ledger s' :=
  fun r u => m.move.keeps h.loans.coherent (hl r u) (hd r u)

/-- Every step but a sale keeps the two ledgers in step. -/
theorem Ledger.execute (hl : Ledger s) (h : Books D s) {a : Action D} (hsale : noSale s a)
    (ha : s.execute D a = .ok s') : Ledger s' := by
  cases a with
  | call sender outside c =>
    obtain ⟨lo, ln, d₀, d₁, he, hd, -⟩ := (perform_spec h outside c).ok ha
    exact (hd hsale).ledger he.loans h hl
  | configure setting =>
    have hadmin := (configure_spec h setting).ok ha
    exact hadmin.debts.ledger hadmin.loans h hl
  | event e =>
    obtain rfl := Except.ok.inj ha
    have hadmin := happen_administered h e
    exact hadmin.debts.ledger hadmin.loans h hl

theorem Genesis.ledger (g : Genesis D s) : Ledger s := by
  intro r u
  rw [(g.debts r).2 u, g.loans]
  exact (total_eq_zero (Finset.Ico_self 1) _).symm

/-- **In every run without a sale the two ledgers agree.** -/
theorem Reachable.ledger (h : Reachable D noSale s) : Ledger s := by
  refine Machine.Reachable.invariant (fun t (g : Genesis D t) => g.ledger)
    (fun t t' hr hl hst => ?_) h
  obtain ⟨a, hsale, ha⟩ := hst
  exact hl.execute (Reachable.books hr) hsale ha

/-! ## Settling a loan -/

/-- A borrower owes at least each of its live loans. -/
theorem Ledger.le (hl : Ledger s) (h : Books D s) {k : Address × ℕ} {loan : LoanData}
    (hheld : s.lendPoolLoan.registry.held k = some loan) :
    loan.scaledAmount ≤ (s.debtTokens loan.reserveAsset).scaledBalanceOf loan.borrower := by
  rw [hl]
  have hle := h.loans.coherent.weight_le (LoanData.owed loan.reserveAsset loan.borrower) hheld
  rwa [LoanData.owed_of_live (h.loans.coherent.held_live hheld).1, if_pos ⟨rfl, rfl⟩] at hle

/-- With the ledgers in step there is always enough debt to burn. -/
theorem Ledger.not_debtShort (hl : Ledger s) (h : Books D s) (e : Error) : ¬ s.DebtShort e := by
  rintro ⟨k, loan, hheld, -, hlt⟩
  exact absurd (hl.le h hheld) (not_le.mpr hlt)

/-- What a call does to the debt of a live loan that it changes: all users' balances move with
what the loan makes them owe. -/
theorem owed_moves (h : Books D s) {sender : Address} (hs : D.isUser sender) {c : Call D}
    (hsale : c.isSale = false) (hc : s.perform D sender c = .ok s') {id : ℕ}
    (hid : id ∈ Finset.Ico 1 s.lendPoolLoan.loanIdTracker) (hlive : (s.lendPoolLoan.loans id).live)
    (hne : s'.lendPoolLoan.loans id ≠ s.lendPoolLoan.loans id) (r u : Address) :
    (s'.debtTokens r).scaledBalanceOf u + (s.lendPoolLoan.loans id).owed r u
      = (s.debtTokens r).scaledBalanceOf u + (s'.lendPoolLoan.loans id).owed r u := by
  obtain ⟨lo, ln, d₀, d₁, he, hd, -⟩ := (perform_spec h hs c).ok hc
  obtain ⟨rfl, rfl⟩ := he.loans.move.changed h.loans.coherent hid hlive hne
  exact hd hsale r u

/-- A loan that is closed or passes to another borrower takes exactly its scaled amount off the
balance of the old one. -/
theorem settled_exactly (h : Books D s) {sender : Address} (hs : D.isUser sender) {c : Call D}
    (hsale : c.isSale = false) (hc : s.perform D sender c = .ok s') {id : ℕ}
    (hid : id ∈ Finset.Ico 1 s.lendPoolLoan.loanIdTracker) (hlive : (s.lendPoolLoan.loans id).live)
    (hgone : ¬ (s'.lendPoolLoan.loans id).live ∨
      (s'.lendPoolLoan.loans id).borrower ≠ (s.lendPoolLoan.loans id).borrower) :
    (s'.debtTokens (s.lendPoolLoan.loans id).reserveAsset).scaledBalanceOf
        (s.lendPoolLoan.loans id).borrower + (s.lendPoolLoan.loans id).scaledAmount
      = (s.debtTokens (s.lendPoolLoan.loans id).reserveAsset).scaledBalanceOf
        (s.lendPoolLoan.loans id).borrower := by
  have hne : s'.lendPoolLoan.loans id ≠ s.lendPoolLoan.loans id := by
    intro heq
    rw [heq] at hgone
    exact hgone.elim (fun hn => hn hlive) fun hn => hn rfl
  have howed : (s'.lendPoolLoan.loans id).owed (s.lendPoolLoan.loans id).reserveAsset
      (s.lendPoolLoan.loans id).borrower = 0 := by
    refine if_neg fun hx => ?_
    exact hgone.elim (fun hn => hn hx.1) fun hn => hn hx.2.2
  have hmoves := owed_moves h hs hsale hc hid hlive hne (s.lendPoolLoan.loans id).reserveAsset
    (s.lendPoolLoan.loans id).borrower
  rwa [howed, LoanData.owed_of_live hlive, if_pos ⟨rfl, rfl⟩, add_zero] at hmoves

/-- **The scaled-debt ledgers agree.** In every run without a liquidation through the adapter, the
scaled balance of every user is the sum over its live loans; no call fails for want of debt to
burn; a loan that is closed or sold takes exactly its scaled amount off the balance of its
borrower; and its whole outstanding amount scales back to just that. -/
theorem debtToken_agrees_with_loans (hr : Reachable D noSale s) :
    (∀ r u, (s.debtTokens r).scaledBalanceOf u
      = ∑ id ∈ s.lendPoolLoan.liveLoans r u, (s.lendPoolLoan.loans id).scaledAmount) ∧
    (∀ sender c, D.isUser sender → c.isSale = false → c.ofToken = false →
      ∀ e, s.perform D sender c = .error e →
      ∀ u, e ≠ .debtBurnAmountExceedsBalance u) ∧
    (∀ sender c s', D.isUser sender → c.isSale = false → s.perform D sender c = .ok s' →
      ∀ id ∈ Finset.Ico 1 s.lendPoolLoan.loanIdTracker, (s.lendPoolLoan.loans id).live →
      ¬ (s'.lendPoolLoan.loans id).live ∨
        (s'.lendPoolLoan.loans id).borrower ≠ (s.lendPoolLoan.loans id).borrower →
      (s'.debtTokens (s.lendPoolLoan.loans id).reserveAsset).scaledBalanceOf
          (s.lendPoolLoan.loans id).borrower + (s.lendPoolLoan.loans id).scaledAmount
        = (s.debtTokens (s.lendPoolLoan.loans id).reserveAsset).scaledBalanceOf
          (s.lendPoolLoan.loans id).borrower) ∧
    (∀ id, (s.lendPoolLoan.loans id).live →
      (s.lendPool.reserves (s.lendPoolLoan.loans id).reserveAsset).uTokenAddress ≠ 0 →
      (s.lendPool.reserves (s.lendPoolLoan.loans id).reserveAsset).lastUpdateTimestamp
        = uint40 s.blockTimestamp →
      ∀ b n, s.getLoanReserveBorrowAmount id = .ok b →
        rayDiv b (s.lendPool.reserves (s.lendPoolLoan.loans id).reserveAsset).variableBorrowIndex
          = .ok n → n = (s.lendPoolLoan.loans id).scaledAmount) := by
  have h := Reachable.books hr
  have hl := Reachable.ledger hr
  refine ⟨fun r u => (hl r u).trans (total_owed _ r u), fun sender c hs hsale htoken e he u => ?_,
    fun sender c s' hs hsale hc id hid hlive hgone => settled_exactly h hs hsale hc hid hlive hgone,
    fun id _ hinit hcurrent b n hb hn => ?_⟩
  · rintro rfl
    rcases (perform_spec h hs c).error he with ht | ⟨hx, -⟩ | ⟨-, hx⟩
    · rw [htoken] at ht; cases ht
    · rw [hsale] at hx; cases hx
    · rcases hx with hx | hx
      · rcases hx with hx | ⟨_, hx, -⟩
        · exact hx
        · cases hx
      · exact hl.not_debtShort h _ hx
  · exact State.scaled_getLoanReserveBorrowAmount rfl hcurrent (h.indices _ hinit).2 hb hn

theorem sampleBusy_noSale : Reachable .sample noSale State.sampleBusy := by
  have hall : ∀ a ∈ sampleSetup 1000 ++ sampleListing ++ sampleBid ++ sampleAuction,
      a.isSale = false := by decide
  exact Reachable.after (.start (State.sample_genesis .weth9)) _ fun a ha _ => hall a ha

/-- In the small deployment, with its loan in auction, user 100 owes what that loan says. -/
theorem debtToken_agrees_with_loans_sample :
    (State.sampleBusy.debtTokens 10).scaledBalanceOf 100
      = ∑ id ∈ State.sampleBusy.lendPoolLoan.liveLoans 10 100,
          (State.sampleBusy.lendPoolLoan.loans id).scaledAmount ∧
    State.sampleBusy.lendPoolLoan.liveLoans 10 100 = {1} ∧
    (State.sampleBusy.lendPoolLoan.loans 1).scaledAmount = 30 * WAD :=
  ⟨(debtToken_agrees_with_loans sampleBusy_noSale).1 10 100, by decide +kernel, by decide +kernel⟩

end Unlockd
