import MotorCove.Indexer.Decoding

/-!
# Deadlines in the sales table

The times of a funded sale go through a double into an integer column and come
back as text. Every later event of the sale reads them and writes them again.
They survive when they are integers that a double and the column hold exactly,
and only then.
-/

set_option autoImplicit false

namespace MotorCove.Indexer
open MotorCove.Fallible MotorCove.Text
open MotorCove.Chain (Address Deployment Log Uint256 Uint64 World)

/-- A double and an integer column both hold the number. -/
def Exact (n : ℕ) : Prop := toDouble n = n ∧ n < 2 ^ 63

instance (n : ℕ) : Decidable (Exact n) := inferInstanceAs (Decidable (_ ∧ _))

/-- The times of a sale as a query reads them. -/
def readTimes (p : Projections) (saleId : String) : Option (Option String × Option String) :=
  (p.sales saleId).map fun r => (r.fundedAt.map Cell.text, r.expiresAt.map Cell.text)

theorem exact_of_lt {n : ℕ} (h : n < 2 ^ 53) : Exact n := ⟨toDouble_of_lt h, by omega⟩

theorem realText_ne_repr (m n : ℕ) : realText m ≠ Nat.repr n := by
  intro h
  have hmem : 'e' ∈ (realText m).toList := by
    unfold realText
    simp
  rw [h] at hmem
  exact absurd (repr_isDigit n 'e' hmem) (by decide)

theorem text_ofDouble {m n : ℕ} :
    (Cell.ofDouble m).text = Nat.repr n ↔ m = n ∧ n < 2 ^ 63 := by
  unfold Cell.ofDouble
  split
  · rename_i hlt
    rw [Cell.text, repr_injective]
    constructor
    · rintro rfl
      exact ⟨rfl, hlt⟩
    · exact And.left
  · rename_i hge
    refine iff_of_false (realText_ne_repr m n) ?_
    rintro ⟨rfl, hlt⟩
    exact hge hlt

theorem map_text_timeCell {n : ℕ} :
    (timeCell (some (Nat.repr n))).map Cell.text = some (Nat.repr n) ↔ Exact n := by
  simp only [timeCell, Option.bind_some, number_repr, Option.map_some, Option.some.injEq,
    text_ofDouble, Exact]

section
variable {collectionAddress saleId : String} {ordered : OrderedEvent} {p p' : Projections}

theorem upsertSale_sales {proposed : SaleRow} (h : upsertSale proposed p = .ok p') :
    p'.sales = Function.update p.sales proposed.saleId
      (some (mergeSale proposed (p.sales proposed.saleId))) := by
  simp only [upsertSale, bind_ok, Except.ok.injEq] at h
  obtain ⟨_, _, _, _, rfl⟩ := h
  rfl

theorem applyPayment_sales {id : String} (h : applyPayment ordered id p = .ok p') :
    p'.sales = p.sales := by
  obtain ⟨_, _, ⟨_, rfl⟩ | ⟨_, _, hupsert⟩⟩ := applyPayment_ok.mp h
  · rfl
  · simp only [upsertPayment, bind_ok, Except.ok.injEq] at hupsert
    obtain ⟨_, _, _, _, rfl⟩ := hupsert
    rfl

theorem applyOwnership_sales {tokenId : String} (h : applyOwnership ordered tokenId p = .ok p') :
    p'.sales = p.sales := by
  unfold applyOwnership at h
  dsimp only at h
  split at h
  · cases h
  · simp only [upsertOwnership, bind_ok, failIf_ok, exists_const, Except.ok.injEq] at h
    obtain ⟨_, _, _, _, _, rfl⟩ := h
    rfl

theorem mergeSale_times (proposed : SaleRow) (current : Option SaleRow) :
    (mergeSale proposed current).fundedAt = proposed.fundedAt ∧
      (mergeSale proposed current).expiresAt = proposed.expiresAt ∧
      (mergeSale proposed current).status = proposed.status := by
  cases current <;> exact ⟨rfl, rfl, rfl⟩

theorem requireSale_ok {current : Option SaleProjection} {event : NormalizedEvent} {id : String}
    {sale : SaleProjection} :
    requireSale current event id = .ok sale ↔ current = some sale ∧ id = sale.saleId := by
  cases current with
  | none => simp [requireSale]
  | some current =>
    simp only [requireSale, ne_eq, ite_not, Option.some.injEq]
    split
    · rename_i hid
      simp only [Except.ok.injEq]
      constructor
      · rintro rfl
        exact ⟨rfl, hid⟩
      · exact And.left
    · rename_i hid
      simp only [reduceCtorEq, false_iff, not_and]
      rintro rfl
      exact hid

theorem projectSale_some {current next : SaleProjection} {event : NormalizedEvent}
    (h : projectSale (some current) event = .ok (some next)) :
    event.saleId? = some current.saleId ∧ next.saleId = current.saleId ∧
      (current.status ≠ .listed → next.status ≠ .listed ∧
        next.fundedAt = current.fundedAt ∧ next.expiresAt = current.expiresAt) := by
  cases event with
  | saleCreated => cases h
  | saleFunded =>
    simp only [projectSale, bind_ok, failIf_ok, exists_const, requireSale_ok, Except.ok.injEq,
      Option.some.injEq, not_not] at h
    obtain ⟨_, ⟨rfl, rfl⟩, hlisted, _, rfl⟩ := h
    exact ⟨rfl, rfl, fun hne => absurd hlisted hne⟩
  | saleCompleted =>
    simp only [projectSale, bind_ok, failIf_ok, exists_const, requireSale_ok, Except.ok.injEq,
      Option.some.injEq] at h
    obtain ⟨_, ⟨rfl, rfl⟩, _, rfl⟩ := h
    exact ⟨rfl, rfl, fun _ => ⟨by simp, rfl, rfl⟩⟩
  | saleCancelled =>
    simp only [projectSale, bind_ok, failIf_ok, exists_const, requireSale_ok, Except.ok.injEq,
      Option.some.injEq] at h
    obtain ⟨_, ⟨rfl, rfl⟩, _, rfl⟩ := h
    exact ⟨rfl, rfl, fun _ => ⟨by simp, rfl, rfl⟩⟩
  | saleExpired =>
    simp only [projectSale, bind_ok, failIf_ok, exists_const, requireSale_ok, Except.ok.injEq,
      Option.some.injEq] at h
    obtain ⟨_, ⟨rfl, rfl⟩, _, rfl⟩ := h
    exact ⟨rfl, rfl, fun _ => ⟨by simp, rfl, rfl⟩⟩
  | tokenReclaimed =>
    simp only [projectSale, bind_ok, failIf_ok, exists_const, requireSale_ok, Except.ok.injEq,
      Option.some.injEq] at h
    obtain ⟨_, ⟨rfl, rfl⟩, _, rfl⟩ := h
    exact ⟨rfl, rfl, fun hne => ⟨hne, rfl, rfl⟩⟩
  | paymentClaimCreated => simp [projectSale] at h
  | paymentWithdrawn => simp [projectSale] at h
  | transfer => simp [projectSale] at h

theorem projectSale_none {next : SaleProjection} {event : NormalizedEvent}
    (h : projectSale none event = .ok (some next)) : event.saleId? = some next.saleId := by
  cases event with
  | saleCreated =>
    simp only [projectSale, Except.ok.injEq, Option.some.injEq] at h
    rw [← h]
    rfl
  | saleFunded => simp [projectSale, requireSale] at h
  | saleCompleted => simp [projectSale, requireSale] at h
  | saleCancelled => simp [projectSale, requireSale] at h
  | saleExpired => simp [projectSale, requireSale] at h
  | tokenReclaimed => simp [projectSale, requireSale] at h
  | paymentClaimCreated => simp [projectSale] at h
  | paymentWithdrawn => simp [projectSale] at h
  | transfer => simp [projectSale] at h

/-- A funded sale whose times are read as the two numerals. -/
def ReadsBack (p : Projections) (saleId : String) (fundedAt expiresAt : ℕ) : Prop :=
  ∃ r, p.sales saleId = some r ∧ r.saleId = saleId ∧ r.status ≠ .listed ∧
    r.fundedAt.map Cell.text = some (Nat.repr fundedAt) ∧
    r.expiresAt.map Cell.text = some (Nat.repr expiresAt)

variable {fundedAt expiresAt : ℕ}

theorem ReadsBack.readTimes (h : ReadsBack p saleId fundedAt expiresAt) :
    readTimes p saleId = some (some (Nat.repr fundedAt), some (Nat.repr expiresAt)) := by
  obtain ⟨r, hr, _, _, hfunded, hexpires⟩ := h
  rw [Indexer.readTimes, hr, Option.map_some, hfunded, hexpires]

theorem ReadsBack.applySale (h : ReadsBack p saleId fundedAt expiresAt) (hfunded : Exact fundedAt)
    (hexpires : Exact expiresAt) {id : String} (hid : ordered.event.saleId? = some id)
    (happly : applySale collectionAddress ordered id p = .ok p') :
    ReadsBack p' saleId fundedAt expiresAt := by
  obtain ⟨next, hnext, ⟨_, rfl⟩ | ⟨sale, rfl, hupsert⟩⟩ := applySale_ok.mp happly
  · exact h
  · obtain ⟨r, hr, hrid, hstatus, hf, he⟩ := h
    have hsales := upsertSale_sales hupsert
    have hkey : (saleRow collectionAddress ordered (p.sales id) sale).saleId = id := by
      show sale.saleId = id
      cases hcurrent : p.sales id with
      | none =>
        rw [hcurrent] at hnext
        exact Option.some.inj ((projectSale_none hnext).symm.trans hid)
      | some r' =>
        rw [hcurrent] at hnext
        obtain ⟨hevent, hsame, _⟩ := projectSale_some hnext
        exact hsame.trans (Option.some.inj (hevent.symm.trans hid))
    rw [hkey] at hsales
    by_cases hsame : saleId = id
    · subst hsame
      rw [hr] at hnext
      obtain ⟨_, hsaleId, htimes⟩ := projectSale_some hnext
      obtain ⟨hlisted, hfundedAt, hexpiresAt⟩ := htimes hstatus
      obtain ⟨hmf, hme, hms⟩ := mergeSale_times
        (saleRow collectionAddress ordered (p.sales saleId) sale) (p.sales saleId)
      refine ⟨mergeSale (saleRow collectionAddress ordered (p.sales saleId) sale) (p.sales saleId),
        by rw [hsales, Function.update_self], ?_, ?_, ?_, ?_⟩
      · rw [hr]
        exact hrid
      · rw [hms]
        exact hlisted
      · rw [hmf]
        show (timeCell sale.fundedAt).map Cell.text = _
        rw [hfundedAt]
        show (timeCell (r.fundedAt.map Cell.text)).map Cell.text = _
        rw [hf, map_text_timeCell.mpr hfunded]
      · rw [hme]
        show (timeCell sale.expiresAt).map Cell.text = _
        rw [hexpiresAt]
        show (timeCell (r.expiresAt.map Cell.text)).map Cell.text = _
        rw [he, map_text_timeCell.mpr hexpires]
    · refine ⟨r, ?_, hrid, hstatus, hf, he⟩
      rw [hsales, Function.update_of_ne hsame, hr]

theorem ReadsBack.applyEvent (h : ReadsBack p saleId fundedAt expiresAt) (hfunded : Exact fundedAt)
    (hexpires : Exact expiresAt) (happly : applyEvent collectionAddress ordered p = .ok p') :
    ReadsBack p' saleId fundedAt expiresAt := by
  unfold Indexer.applyEvent at happly
  split at happly
  · obtain ⟨r, hr, hrest⟩ := h
    exact ⟨r, by rw [applyOwnership_sales happly, hr], hrest⟩
  · split at happly
    · obtain rfl := Except.ok.inj happly
      exact h
    · rename_i id hid
      obtain ⟨p₁, hpayment, hsale⟩ := bind_ok.mp happly
      obtain ⟨r, hr, hrest⟩ := h
      have h₁ : ReadsBack p₁ saleId fundedAt expiresAt :=
        ⟨r, by rw [applyPayment_sales hpayment, hr], hrest⟩
      exact h₁.applySale hfunded hexpires hid hsale

theorem ReadsBack.applyEvents (h : ReadsBack p saleId fundedAt expiresAt)
    (hfunded : Exact fundedAt) (hexpires : Exact expiresAt) {later : List OrderedEvent}
    (happly : applyEvents collectionAddress later p = .ok p') :
    ReadsBack p' saleId fundedAt expiresAt :=
  foldlM_invariant _ (fun p => ReadsBack p saleId fundedAt expiresAt)
    (fun _ _ _ hp hstep => hp.applyEvent hfunded hexpires hstep) later p p' h happly

theorem applyEvent_funded {buyer amountWei fundedText expiresText : String}
    (hevent : ordered.event = .saleFunded saleId buyer amountWei fundedText expiresText)
    (happly : applyEvent collectionAddress ordered p = .ok p') :
    ∃ r, p'.sales saleId = some r ∧ r.saleId = saleId ∧ r.status ≠ .listed ∧
      r.fundedAt = timeCell (some fundedText) ∧ r.expiresAt = timeCell (some expiresText) := by
  simp only [Indexer.applyEvent, hevent, NormalizedEvent.saleId?, bind_ok] at happly
  obtain ⟨p₁, hpayment, hsale⟩ := happly
  rw [applySale_ok, applyPayment_sales hpayment, hevent] at hsale
  obtain ⟨next, hnext, hwrite⟩ := hsale
  simp only [projectSale, bind_ok, failIf_ok, exists_const, requireSale_ok, Except.ok.injEq,
    not_not, Option.map_eq_some_iff] at hnext
  obtain ⟨_, ⟨⟨r, hr, rfl⟩, hrid⟩, _, _, rfl⟩ := hnext
  obtain ⟨hnone, _⟩ | ⟨sale, hnext, hupsert⟩ := hwrite
  · cases hnone
  · obtain rfl := Option.some.inj hnext
    have hsales := upsertSale_sales hupsert
    rw [applyPayment_sales hpayment] at hsales
    have hkey : (saleRow collectionAddress ordered (p.sales saleId) { r.projection with
        buyer := some buyer, fundedAt := some fundedText, expiresAt := some expiresText,
        status := .funded }).saleId = saleId := hrid.symm
    rw [hkey] at hsales
    refine ⟨_, by rw [hsales, Function.update_self], ?_, ?_, ?_, ?_⟩
    · rw [hr]
      exact hrid.symm
    · rw [hr]
      simp [mergeSale, saleRow]
    · rw [hr]
      rfl
    · rw [hr]
      rfl

end

section
variable {S : Type} {d : Deployment} {sender : Address} {value saleId : Uint256} {w w' : World S}

theorem fundSale_times (h : Chain.fundSale d sender value saleId w = .ok w') :
    w'.logs.getLast? = some (.saleFunded saleId sender value (w'.sales saleId).fundedAt
      (w'.sales saleId).expiresAt) := by
  obtain ⟨_, _, _, _, expiresAt, _, _, _, _, rfl⟩ := Chain.fundSale_ok h
  simp [World.emit, World.setSale]

end

/-- The times that every later query reads are those of the contract exactly
when both are below `2^63` and a double holds them. -/
theorem deadline_projected {S : Type} (d : Deployment) (sender : Address) (value saleId : Uint256)
    (w w' : World S) (hfund : Chain.fundSale d sender value saleId w = .ok w') (log : Log)
    (hlog : w'.logs.getLast? = some log) (render : Address → String) (collectionAddress : String)
    (ordered : OrderedEvent) (hevent : ordered.event = decode render log) (p p₁ : Projections)
    (happly : applyEvent collectionAddress ordered p = .ok p₁) :
    (∀ later p₂, applyEvents collectionAddress later p₁ = .ok p₂ →
      readTimes p₂ (text saleId) = some (some (text (w'.sales saleId).fundedAt),
        some (text (w'.sales saleId).expiresAt))) ↔
      Exact (w'.sales saleId).fundedAt.val ∧ Exact (w'.sales saleId).expiresAt.val := by
  obtain rfl := Option.some.inj (hlog.symm.trans (fundSale_times hfund))
  obtain ⟨r, hr, hrid, hstatus, hfunded, hexpires⟩ := applyEvent_funded hevent happly
  constructor
  · intro h
    have hread := h [] p₁ rfl
    rw [readTimes, hr, Option.map_some, hfunded, hexpires, Option.some.injEq,
      Prod.mk.injEq] at hread
    exact ⟨map_text_timeCell.mp hread.1, map_text_timeCell.mp hread.2⟩
  · rintro ⟨hf, he⟩ later p₂ hlater
    have hback : ReadsBack p₁ (text saleId) (w'.sales saleId).fundedAt.val
        (w'.sales saleId).expiresAt.val := by
      refine ⟨r, hr, hrid, hstatus, ?_, ?_⟩
      · rw [hfunded]
        exact map_text_timeCell.mpr hf
      · rw [hexpires]
        exact map_text_timeCell.mpr he
    exact (hback.applyEvents hf he hlater).readTimes

theorem firstAddress_ne_zero : (1 : Address) ≠ 0 := by decide

theorem secondAddress_ne_zero : (2 : Address) ≠ 0 := by decide

/-- An escrow at its two addresses, with the given funding period. -/
def escrowOf (fundingPeriodSeconds : Uint64) (h : fundingPeriodSeconds ≠ 0) : Deployment where
  escrow := 1
  nft := 2
  fundingPeriodSeconds := fundingPeriodSeconds
  escrow_ne_zero := firstAddress_ne_zero
  nft_ne_zero := secondAddress_ne_zero
  period_ne_zero := h

/-- A listed sale, and the price in the contract's balance. -/
def listedWorld : World Unit :=
  (Chain.deployed () 5 1700000000).setSale 1 ⟨1, 3, 4, 0, 5, 0, 0, .listed, false⟩

def listedProjections : Projections :=
  { noProjections with
    sales := Function.update noProjections.sales "1" (some
      { saleId := "1", collectionAddress := address 2, tokenId := "1", seller := address 3,
        allowedBuyer := address 4, buyer := none, priceWei := "5", status := .listed,
        fundedAt := none, expiresAt := none, createdBlock := 6, updatedBlock := 6,
        lastEventBlockHash := "0x6", lastEventLogIndex := 0, tokenReclaimed := false }) }

def fundingEvent (expiresAt : Uint64) : OrderedEvent where
  blockNumber := 7
  blockHash := "0x7"
  transactionHash := "0x70"
  transactionIndex := 0
  logIndex := 0
  contractAddress := address 1
  topics := []
  data := "0x"
  event := decode address (.saleFunded 1 4 5 1700000000 expiresAt)

theorem deadline_projected_hour : ∃ w' p₁,
    Chain.fundSale (escrowOf 3600 (by decide)) 4 5 1 listedWorld = .ok w' ∧
    applyEvent (address 2) (fundingEvent 1700003600) listedProjections = .ok p₁ ∧
    readTimes p₁ "1" = some (some "1700000000", some "1700003600") := by
  cases happly : applyEvent (address 2) (fundingEvent 1700003600) listedProjections with
  | error e =>
    have hok : (applyEvent (address 2) (fundingEvent 1700003600) listedProjections).isOk = true := by
      decide +kernel
    rw [happly] at hok
    cases hok
  | ok p₁ =>
    refine ⟨_, p₁, rfl, rfl, ?_⟩
    exact (deadline_projected (escrowOf 3600 (by decide)) 4 5 1 listedWorld _ rfl
      (.saleFunded 1 4 5 1700000000 1700003600) rfl address (address 2)
      (fundingEvent 1700003600) rfl listedProjections p₁ happly).mpr
      ⟨by decide, by decide⟩ [] p₁ rfl

/-- The contract accepts a period that puts the deadline at `2^53 + 1`, and the
table shows `2^53`. -/
theorem deadline_rounded : ¬∀ (d : Deployment) (sender : Address) (value saleId : Uint256)
    (w w' : World Unit), Chain.fundSale d sender value saleId w = .ok w' →
    ∀ (log : Log), w'.logs.getLast? = some log →
    ∀ (render : Address → String) (collectionAddress : String) (ordered : OrderedEvent),
    ordered.event = decode render log →
    ∀ (p p₁ : Projections), applyEvent collectionAddress ordered p = .ok p₁ →
    ∀ later p₂, applyEvents collectionAddress later p₁ = .ok p₂ →
      readTimes p₂ (text saleId) = some (some (text (w'.sales saleId).fundedAt),
        some (text (w'.sales saleId).expiresAt)) := by
  intro h
  have hread : ((applyEvent (address 2) (fundingEvent 9007199254740993)
      listedProjections).toOption.bind fun p₁ => readTimes p₁ "1") =
        some (some "1700000000", some "9007199254740992") := by
    decide +kernel
  cases happly : applyEvent (address 2) (fundingEvent 9007199254740993) listedProjections with
  | error e =>
    rw [happly] at hread
    cases hread
  | ok p₁ =>
    rw [happly] at hread
    have hclaimed := h (escrowOf 9007197554740993 (by decide)) 4 5 1 listedWorld _ rfl
      (.saleFunded 1 4 5 1700000000 9007199254740993) rfl address (address 2)
      (fundingEvent 9007199254740993) rfl listedProjections p₁ happly [] p₁ rfl
    have htexts := hclaimed.symm.trans hread
    exact absurd htexts (by decide)

end MotorCove.Indexer
