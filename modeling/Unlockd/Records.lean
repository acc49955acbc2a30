/-
What holds of the records of the two contracts in every reachable state.

The index of each contract finds exactly its live records, its counters are the numbers of
them, receipts follow the loans, open listings stand on live loans with the same terms, and
a record that is closed is never written again.
-/
import Unlockd.Ledger

set_option autoImplicit false

namespace Unlockd

open Outcome Registry LendPoolLoan DebtMarket

variable {D : Deployment} {s s' : State}

/-- A run from one state to another. -/
abbrev Run (D : Deployment) (allowed : State → Action D → Prop) : State → State → Prop :=
  Relation.ReflTransGen (Step D allowed)

theorem Run.any {allowed : State → Action D → Prop} (h : Run D allowed s s') :
    Run D (anyAction D) s s' :=
  Relation.ReflTransGen.mono (fun _ _ ⟨a, _, ha⟩ => ⟨a, trivial, ha⟩) _ _ h

/-- An error that would show a counter or the terms of a listing to be wrong. -/
def Error.OfRecords (e : Error) : Prop :=
  e = .LP_INVALID_USER_NFT_AMOUNT ∨ e = .LP_INVALID_NFT_AMOUNT ∨ e = .DM_BORROWED_AMOUNT_DIVERGED

/-- No call to the protocol finds its records wrong. -/
theorem not_ofRecords (h : Books D s) {sender : Address} (hs : D.isUser sender) {c : Call D}
    (htoken : c.ofToken = false) {e : Error} (he : s.perform D sender c = .error e) :
    ¬ e.OfRecords := by
  rcases refused_of_call h hs htoken he with (hb | ⟨_, rfl, -⟩) | ⟨_, rfl⟩
  · rintro (rfl | rfl | rfl) <;> exact hb
  · rintro (hx | hx | hx) <;> cases hx
  · rintro (hx | hx | hx) <;> cases hx

/-! ## Loans -/

section Loans

/-- A closed loan is not written by any step. -/
theorem Stepped.loan_closed {lo ln : Option LoanData} {d₀ d₁ : Option DebtMarketListing}
    (h : Books D s) (st : Stepped D s s' lo ln d₀ d₁) {id : ℕ}
    (hid : id ∈ Finset.Ico 1 s.lendPoolLoan.loanIdTracker) (hc : ¬ (s.lendPoolLoan.loans id).live) :
    id ∈ Finset.Ico 1 s'.lendPoolLoan.loanIdTracker ∧
      s'.lendPoolLoan.loans id = s.lendPoolLoan.loans id :=
  st.loans.move.closed h.loans.coherent hid hc

/-- Nor by any run. -/
theorem loan_closed_of_run (hr : Reachable D (anyAction D) s) (hrun : Run D (anyAction D) s s')
    {id : ℕ} (hid : id ∈ Finset.Ico 1 s.lendPoolLoan.loanIdTracker)
    (hc : ¬ (s.lendPoolLoan.loans id).live) :
    s'.lendPoolLoan.loans id = s.lendPoolLoan.loans id := by
  have hstable := Machine.run_stable
    (P := fun t => id ∈ Finset.Ico 1 t.lendPoolLoan.loanIdTracker ∧
      t.lendPoolLoan.loans id = s.lendPoolLoan.loans id) ?_ hr hrun ⟨hid, rfl⟩
  · exact hstable.2
  · intro t t' ht hp hst
    obtain ⟨_, _, _, _, hstepped⟩ := Reachable.stepped ht hst
    obtain ⟨hmem, heq⟩ := hstepped.loan_closed (Reachable.books ht) hp.1 (hp.2 ▸ hc)
    exact ⟨hmem, heq.trans hp.2⟩

/-- **The loans are in order.** The index finds exactly the live loans, one for a token; the two
counters are the numbers of live loans and their guards never fail; the receipt of a token
exists exactly while a loan on it is live, in the name of its borrower; and loans that are
repaid or defaulted never change again. -/
theorem loans_in_order (hr : Reachable D (anyAction D) s) :
    (∀ a t id, id ≠ 0 → (s.lendPoolLoan.nftToLoanIds a t = id ↔
      id ∈ Finset.Ico 1 s.lendPoolLoan.loanIdTracker ∧ (s.lendPoolLoan.loans id).live ∧
        (s.lendPoolLoan.loans id).nftAsset = a ∧ (s.lendPoolLoan.loans id).nftTokenId = t)) ∧
    (∀ a, s.lendPoolLoan.nftTotalCollateral a
      = ((Finset.Ico 1 s.lendPoolLoan.loanIdTracker).filter fun id =>
          (s.lendPoolLoan.loans id).live ∧ (s.lendPoolLoan.loans id).nftAsset = a).card) ∧
    (∀ u a, s.lendPoolLoan.userNftCollateral u a
      = ((Finset.Ico 1 s.lendPoolLoan.loanIdTracker).filter fun id =>
          (s.lendPoolLoan.loans id).live ∧ (s.lendPoolLoan.loans id).borrower = u ∧
            (s.lendPoolLoan.loans id).nftAsset = a).card) ∧
    (∀ sender c, D.isUser sender → c.ofToken = false → ∀ e, s.perform D sender c = .error e →
      e ≠ .LP_INVALID_USER_NFT_AMOUNT ∧ e ≠ .LP_INVALID_NFT_AMOUNT) ∧
    (∀ a t, ((s.uNfts a).owner t ≠ 0 ↔ s.lendPoolLoan.nftToLoanIds a t ≠ 0) ∧
      (s.lendPoolLoan.nftToLoanIds a t ≠ 0 →
        (s.uNfts a).owner t = (s.lendPoolLoan.loans (s.lendPoolLoan.nftToLoanIds a t)).borrower)) ∧
    (∀ s', Run D (anyAction D) s s' → ∀ id ∈ Finset.Ico 1 s.lendPoolLoan.loanIdTracker,
      (s.lendPoolLoan.loans id).state = .Repaid ∨ (s.lendPoolLoan.loans id).state = .Defaulted →
      s'.lendPoolLoan.loans id = s.lendPoolLoan.loans id) := by
  have h := Reachable.books hr
  have hreceipt : ∀ a t, s.lendPoolLoan.nftToLoanIds a t ≠ 0 → (s.uNfts a).owner t
      = (s.lendPoolLoan.loans (s.lendPoolLoan.nftToLoanIds a t)).borrower := by
    intro a t hid
    rw [h.receipts, (h.loans.held hid).1]
    rfl
  refine ⟨fun a t id hid => ?_, h.loans.kept.perGroup_card, h.loans.kept.perMember_card,
    fun sender c hs htoken e he => ?_, fun a t => ⟨⟨fun ho hz => ?_, fun hid => ?_⟩, hreceipt a t⟩,
    fun s' hrun id hid hc => loan_closed_of_run hr hrun hid ?_⟩
  · refine (h.loans.coherent.index_iff (a, t) id hid).trans ?_
    exact and_congr_right fun _ => and_congr_right fun _ => Prod.ext_iff
  · have hnot := not_ofRecords h hs htoken he
    exact ⟨fun hx => hnot (.inl hx), fun hx => hnot (.inr (.inl hx))⟩
  · rw [h.receipts, held_eq_none.mpr hz] at ho
    exact ho rfl
  · rw [hreceipt a t hid]
    exact (h.loans.wellFormed _).borrower (h.loans.held hid).2.1
  · rintro (hl | hl) <;> rw [hl] at hc <;> rcases hc with hc | hc <;> cases hc

/-- In the small deployment the loan of user 100 is found, counted, and has its receipt. -/
theorem loans_in_order_sample :
    (State.sampleBusy.uNfts 40).owner 7 = (State.sampleBusy.lendPoolLoan.loans
      (State.sampleBusy.lendPoolLoan.nftToLoanIds 40 7)).borrower ∧
    State.sampleBusy.lendPoolLoan.nftToLoanIds 40 7 = 1 ∧
    (State.sampleBusy.uNfts 40).owner 7 = 100 ∧
    State.sampleBusy.lendPoolLoan.userNftCollateral 100 40 = 1 :=
  ⟨((loans_in_order (Reachable.any sampleBusy_noSale)).2.2.2.2.1 40 7).2 (by decide +kernel),
    by decide +kernel, by decide +kernel, by decide +kernel⟩

end Loans

/-! ## Listings -/

section Listings

/-- A closed listing is not written by any step. -/
theorem Stepped.listing_closed {lo ln : Option LoanData} {d₀ d₁ : Option DebtMarketListing}
    (h : Books D s) (st : Stepped D s s' lo ln d₀ d₁) {id : ℕ}
    (hid : id ∈ Finset.Ico 1 (s.debtMarket.debtIdTracker + 1))
    (hc : ¬ (s.debtMarket.marketListings id).isOpen) :
    id ∈ Finset.Ico 1 (s'.debtMarket.debtIdTracker + 1) ∧
      s'.debtMarket.marketListings id = s.debtMarket.marketListings id :=
  st.listings.move.closed h.listings.coherent hid hc

/-- Nor by any run. -/
theorem listing_closed_of_run (hr : Reachable D (anyAction D) s) (hrun : Run D (anyAction D) s s')
    {id : ℕ} (hid : id ∈ Finset.Ico 1 (s.debtMarket.debtIdTracker + 1))
    (hc : ¬ (s.debtMarket.marketListings id).isOpen) :
    s'.debtMarket.marketListings id = s.debtMarket.marketListings id := by
  have hstable := Machine.run_stable
    (P := fun t => id ∈ Finset.Ico 1 (t.debtMarket.debtIdTracker + 1) ∧
      t.debtMarket.marketListings id = s.debtMarket.marketListings id) ?_ hr hrun ⟨hid, rfl⟩
  · exact hstable.2
  · intro t t' ht hp hst
    obtain ⟨_, _, _, _, hstepped⟩ := Reachable.stepped ht hst
    obtain ⟨hmem, heq⟩ := hstepped.listing_closed (Reachable.books ht) hp.1 (hp.2 ▸ hc)
    exact ⟨hmem, heq.trans hp.2⟩

/-- **The listings are in order.** The index finds exactly the open listings; the two counters
are their numbers; each stands on a live loan with its reserve and its scaled amount, so that
no call finds the two diverged; and listings that are sold or cancelled never change again. -/
theorem listings_in_order (hr : Reachable D (anyAction D) s) :
    (∀ a t d, d ≠ 0 → (s.debtMarket.nftToDebtIds a t = d ↔
      d ∈ Finset.Ico 1 (s.debtMarket.debtIdTracker + 1) ∧ (s.debtMarket.marketListings d).isOpen ∧
        (s.debtMarket.marketListings d).nftAsset = a ∧
          (s.debtMarket.marketListings d).tokenId = t)) ∧
    (∀ a, s.debtMarket.totalDebtsByCollection a
      = ((Finset.Ico 1 (s.debtMarket.debtIdTracker + 1)).filter fun d =>
          (s.debtMarket.marketListings d).isOpen ∧
            (s.debtMarket.marketListings d).nftAsset = a).card) ∧
    (∀ u a, s.debtMarket.userTotalDebtByCollection u a
      = ((Finset.Ico 1 (s.debtMarket.debtIdTracker + 1)).filter fun d =>
          (s.debtMarket.marketListings d).isOpen ∧ (s.debtMarket.marketListings d).debtor = u ∧
            (s.debtMarket.marketListings d).nftAsset = a).card) ∧
    (∀ d ∈ Finset.Ico 1 (s.debtMarket.debtIdTracker + 1), (s.debtMarket.marketListings d).isOpen →
      ∃ id ∈ Finset.Ico 1 s.lendPoolLoan.loanIdTracker, (s.lendPoolLoan.loans id).live ∧
        (s.lendPoolLoan.loans id).nftAsset = (s.debtMarket.marketListings d).nftAsset ∧
        (s.lendPoolLoan.loans id).nftTokenId = (s.debtMarket.marketListings d).tokenId ∧
        (s.lendPoolLoan.loans id).reserveAsset = (s.debtMarket.marketListings d).reserveAsset ∧
        (s.lendPoolLoan.loans id).scaledAmount = (s.debtMarket.marketListings d).scaledAmount) ∧
    (∀ sender c, D.isUser sender → c.ofToken = false → ∀ e, s.perform D sender c = .error e →
      e ≠ .DM_BORROWED_AMOUNT_DIVERGED) ∧
    (∀ s', Run D (anyAction D) s s' → ∀ d ∈ Finset.Ico 1 (s.debtMarket.debtIdTracker + 1),
      (s.debtMarket.marketListings d).state = .Sold ∨
        (s.debtMarket.marketListings d).state = .Canceled →
      s'.debtMarket.marketListings d = s.debtMarket.marketListings d) := by
  have h := Reachable.books hr
  refine ⟨fun a t d hd => ?_, h.listings.kept.perGroup_card, h.listings.kept.perMember_card,
    fun d hd hopen => ?_, fun sender c hs htoken e he hx => ?_,
    fun s' hrun d hd hc => listing_closed_of_run hr hrun hd ?_⟩
  · refine (h.listings.coherent.index_iff (a, t) d hd).trans ?_
    exact and_congr_right fun _ => and_congr_right fun _ => Prod.ext_iff
  · obtain ⟨l, hl, hterms⟩ := h.matched _ _ (h.listings.coherent.held_of_live hd hopen)
    obtain ⟨hne, rfl⟩ := held_eq_some.mp hl
    obtain ⟨hlive, hkey⟩ := h.loans.coherent.held_live hl
    exact ⟨_, h.loans.coherent.mem hne, hlive, congrArg Prod.fst hkey, congrArg Prod.snd hkey,
      hterms.1, hterms.2⟩
  · exact not_ofRecords h hs htoken he (.inr (.inr hx))
  · rintro (hl | hl) <;> rw [hl] at hc <;> rcases hc with hc | hc <;> cases hc

/-- In the small deployment the listing of user 100 is found and stands on its loan. -/
theorem listings_in_order_sample :
    (∃ id ∈ Finset.Ico 1 State.sampleBusy.lendPoolLoan.loanIdTracker,
      (State.sampleBusy.lendPoolLoan.loans id).live ∧
      (State.sampleBusy.lendPoolLoan.loans id).nftAsset = 40 ∧
      (State.sampleBusy.lendPoolLoan.loans id).scaledAmount = 30 * WAD) ∧
    State.sampleBusy.debtMarket.nftToDebtIds 40 7 = 1 ∧
    State.sampleBusy.debtMarket.totalDebtsByCollection 40 = 1 := by
  obtain ⟨id, hid, hlive, ha, -, -, hn⟩ :=
    (listings_in_order (Reachable.any sampleBusy_noSale)).2.2.2.1 1 (by decide +kernel)
      (by decide +kernel)
  refine ⟨⟨id, hid, hlive, ha.trans ?_, hn.trans ?_⟩, ?_, ?_⟩ <;> decide +kernel

end Listings

end Unlockd
