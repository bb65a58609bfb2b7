import MotorCove.Indexer.Reconcile

/-!
# The verdict of a reconciliation

Each pass ends exactly when its reads succeed, and lists the differences that no
failed read comes before. There are none exactly when the rows it looks at are
the contracts' answers. The verdict of the whole run follows from its reads and
its list.
-/

set_option autoImplicit false

namespace MotorCove.Indexer.Reconcile
open MotorCove.Effects MotorCove.Fallible MotorCove.Text

structure SaleAgrees (projected : ProjectedSale) (chainSale : ChainSale) : Prop where
  tokenId : projected.tokenId = Nat.repr chainSale.tokenId
  seller : projected.seller = lower chainSale.seller
  allowedBuyer : projected.allowedBuyer = some (lower chainSale.allowedBuyer)
  buyer : projected.buyer =
    if chainSale.buyer = zeroAddress then none else some (lower chainSale.buyer)
  priceWei : projected.priceWei = Nat.repr chainSale.priceWei
  fundedAt : projected.fundedAt =
    if chainSale.fundedAt = 0 then none else some (Nat.repr chainSale.fundedAt)
  expiresAt : projected.expiresAt =
    if chainSale.expiresAt = 0 then none else some (Nat.repr chainSale.expiresAt)
  status : statuses[chainSale.status]? = some projected.status
  tokenReclaimed : projected.tokenReclaimed = if chainSale.tokenReclaimed then 1 else 0

structure ClaimAgrees (projected : ProjectedClaim) (chainClaim : ChainClaim) : Prop where
  beneficiary : projected.beneficiary = lower chainClaim.beneficiary
  amountWei : projected.amountWei = Nat.repr chainClaim.amountWei
  kind : claimKinds[chainClaim.kind]? = some projected.kind
  status : claimStatuses[chainClaim.status]? = some projected.status

section
variable (chain : ChainAnswers) (projection : Projection) (saleCount nextTokenId : ℕ)

def SalesRead : Prop :=
  ∀ id, 1 ≤ id → id ≤ saleCount → (∃ r ∈ projection.sales.rows, r.saleId = Nat.repr id) →
    ∃ chainSale, chain.getSale id = .ok chainSale

def ClaimsRead : Prop :=
  ∀ id, 1 ≤ id → id ≤ saleCount → ∃ chainClaim, chain.getPaymentClaim id = .ok chainClaim

def OwnersRead : Prop :=
  ∀ id, 1 ≤ id → id < nextTokenId → ∃ owner, chain.ownerOf id = .ok owner

end

/-- The reads of the comparison succeed, the anchor is the checkpoint's block
before and after, and the ranges are within the scope. -/
structure AnchoredReads (chain : ChainAnswers) (blockHash : String) (projection : Projection)
    (saleCount nextTokenId : ℕ) : Prop where
  before : ∃ before, chain.before = .ok before ∧ before.hash = blockHash
  counted : chain.saleCount = .ok saleCount
  saleScope : saleCount ≤ maxSafeInteger
  sales : SalesRead chain projection saleCount
  claims : ClaimsRead chain saleCount
  minted : chain.nextTokenId = .ok nextTokenId
  tokenScope : nextTokenId - 1 ≤ maxSafeInteger
  owners : OwnersRead chain nextTokenId
  after : ∃ after, chain.after = .ok after ∧ after.hash = blockHash

/-- Every read succeeds, those of the head before and at publication included. -/
structure Reads (chain : ChainAnswers) (blockHash : String) (projection : Projection)
    (saleCount nextTokenId : ℕ) : Prop
    extends AnchoredReads chain blockHash projection saleCount nextTokenId where
  head : ∃ head, chain.head = .ok head
  publicationHead : ∃ publicationHead, chain.publicationHead = .ok publicationHead

section
variable (chain : ChainAnswers) (collectionAddress : String) (projection : Projection)
  (saleCount nextTokenId : ℕ)

/-- Each sale has one row, which holds what the contract answers; no row is left. -/
structure SalesAgree : Prop where
  rows : ∀ id, 1 ≤ id → id ≤ saleCount → ∃ r ∈ projection.sales.rows, r.saleId = Nat.repr id ∧
    ∃ chainSale, chain.getSale id = .ok chainSale ∧ SaleAgrees r chainSale
  noExtra : ∀ r ∈ projection.sales.rows, ∃ id, 1 ≤ id ∧ id ≤ saleCount ∧ r.saleId = Nat.repr id

/-- Each sale has the claim row that the contract answers, and none when it
answers none; no row is left. -/
structure ClaimsAgree : Prop where
  rows : ∀ id, 1 ≤ id → id ≤ saleCount →
    ∃ chainClaim, chain.getPaymentClaim id = .ok chainClaim ∧
      if chainClaim.status = 0 then ∀ r ∈ projection.claims.rows, r.saleId ≠ Nat.repr id
      else ∃ r ∈ projection.claims.rows, r.saleId = Nat.repr id ∧ ClaimAgrees r chainClaim
  noExtra : ∀ r ∈ projection.claims.rows, ∃ id, 1 ≤ id ∧ id ≤ saleCount ∧ r.saleId = Nat.repr id

/-- Each token has one row with its owner; no row, and no other collection, is left. -/
structure OwnersAgree : Prop where
  rows : ∀ id, 1 ≤ id → id < nextTokenId → ∃ owner, chain.ownerOf id = .ok owner ∧
    ∃ r ∈ projection.owners.rows, r.collectionAddress = collectionAddress ∧
      r.tokenId = Nat.repr id ∧ r.owner = lower owner
  noExtra : ∀ r ∈ projection.owners.rows, ∃ id, 1 ≤ id ∧ id < nextTokenId ∧
    r.tokenId = Nat.repr id
  noOtherCollection : ∀ r ∈ projection.owners.rows, r.collectionAddress = collectionAddress

/-- The rows are the contracts' answers, one for each id and no others. -/
structure Agrees : Prop where
  sales : SalesAgree chain projection saleCount
  claims : ClaimsAgree chain projection saleCount
  owners : OwnersAgree chain collectionAddress projection nextTokenId

end

section
variable (chain : ChainAnswers) (collectionAddress : String) (projection : Projection)
  (saleCount nextTokenId : ℕ)

/-- A sale without a row, a row without a sale, and a field of a sale's row that
is not the contract's, when the sales below it were read. -/
inductive SaleDifference : Difference → Prop where
  | missing {id : ℕ} (hle : 1 ≤ id) (hge : id ≤ saleCount)
      (hmissing : ∀ r ∈ projection.sales.rows, r.saleId ≠ Nat.repr id) :
      SaleDifference (.missingSale (Nat.repr id))
  | extra {r : ProjectedSale} (hr : r ∈ projection.sales.rows)
      (hextra : ∀ id, 1 ≤ id → id ≤ saleCount → r.saleId ≠ Nat.repr id) :
      SaleDifference (.extraSale r.saleId r)
  | field {id : ℕ} (hle : 1 ≤ id) (hge : id ≤ saleCount) {r : ProjectedSale}
      (hr : r ∈ projection.sales.rows) (hid : r.saleId = Nat.repr id)
      (hbelow : SalesRead chain projection (id - 1)) {chainSale : ChainSale}
      (hsale : chain.getSale id = .ok chainSale) {field : SaleField}
      (hdiffers : r.get field ≠ expectedSale chainSale field) :
      SaleDifference (.saleField r.saleId field (r.get field) (expectedSale chainSale field))

/-- A claim that is not the contract's, when the claims below it were read, and a
row without a sale, when all were. -/
inductive ClaimDifference : Difference → Prop where
  | claim {id : ℕ} (hle : 1 ≤ id) (hge : id ≤ saleCount) (hbelow : ClaimsRead chain (id - 1))
      {chainClaim : ChainClaim} (hclaim : chain.getPaymentClaim id = .ok chainClaim)
      (hdiffers : (projection.claims.find? (Nat.repr id)).map ProjectedClaim.toPaymentClaim ≠
        expectedClaim chainClaim) :
      ClaimDifference (.paymentClaim (Nat.repr id)
        ((projection.claims.find? (Nat.repr id)).map ProjectedClaim.toPaymentClaim)
        (expectedClaim chainClaim))
  | extra {r : ProjectedClaim} (hr : r ∈ projection.claims.rows) (hread : ClaimsRead chain saleCount)
      (hextra : ∀ id, 1 ≤ id → id ≤ saleCount → r.saleId ≠ Nat.repr id) :
      ClaimDifference (.extraPaymentClaim r.saleId r.toPaymentClaim)

/-- A row of another collection, an owner that is not the contract's, when the
tokens below it were read, and a row without a token, when all were. -/
inductive OwnerDifference : Difference → Prop where
  | collection {r : ProjectedOwner} (hr : r ∈ projection.owners.rows)
      (hother : r.collectionAddress ≠ collectionAddress) :
      OwnerDifference (.unexpectedCollection r.collectionAddress r.tokenId r.owner)
  | owner {id : ℕ} (hle : 1 ≤ id) (hlt : id < nextTokenId) (hbelow : OwnersRead chain id)
      {owner : String} (howner : chain.ownerOf id = .ok owner)
      (hdiffers : (projection.owners.find? (collectionAddress, Nat.repr id)).map
        ProjectedOwner.owner ≠ some (lower owner)) :
      OwnerDifference (.currentOwner collectionAddress (Nat.repr id)
        ((projection.owners.find? (collectionAddress, Nat.repr id)).map ProjectedOwner.owner)
        (some (lower owner)))
  | extra {r : ProjectedOwner} (hr : r ∈ projection.owners.rows)
      (hcollection : r.collectionAddress = collectionAddress) (hread : OwnersRead chain nextTokenId)
      (hextra : ∀ id, 1 ≤ id → id < nextTokenId → r.tokenId ≠ Nat.repr id) :
      OwnerDifference (.extraOwner collectionAddress r.tokenId r.owner)

variable (blockHash : String) in
/-- A difference that is met before the first read that fails: once the head and
the anchor are read, the sales, then the claims, then the tokens are compared. -/
def Recorded (d : Difference) : Prop :=
  (∃ head, chain.head = .ok head) ∧
    (∃ before, chain.before = .ok before ∧ before.hash = blockHash) ∧
    ∃ saleCount, chain.saleCount = .ok saleCount ∧ saleCount ≤ maxSafeInteger ∧
      (SaleDifference chain projection saleCount d ∨
        SalesRead chain projection saleCount ∧ (ClaimDifference chain projection saleCount d ∨
          ClaimsRead chain saleCount ∧ ∃ nextTokenId, chain.nextTokenId = .ok nextTokenId ∧
            nextTokenId - 1 ≤ maxSafeInteger ∧
            OwnerDifference chain collectionAddress projection nextTokenId d))

end

abbrev Compares {α : Type} (x : Run α) (reads : Prop) (finds : Difference → Prop) : Prop :=
  Audits Progress.differences Progress.head x reads finds

theorem push_compares (found : List Difference) : Compares (push found) True (· ∈ found) :=
  audits_record (fun _ => rfl) fun _ => rfl

theorem setSaleScope_compares (saleCount projectedRows : ℕ) :
    Compares (setSaleScope saleCount projectedRows) True fun _ => False :=
  audits_modify (fun _ => rfl) fun _ => rfl

theorem setTokenScope_compares (nextTokenId : ℕ) :
    Compares (setTokenScope nextTokenId) True fun _ => False :=
  audits_modify (fun _ => rfl) fun _ => rfl

section
variable {ρ : Type} {projected : Entries ρ}

theorem Entries.get_remove {id id' : String} (h : id' ≠ id) :
    (projected.remove id).get id' = projected.get id' := by
  unfold Entries.get Entries.remove Table.find?
  rw [Table.rows_delete, List.find?_filter]
  congr 2
  ext entry
  by_cases hentry : entry.1 = id'
  · subst hentry
    simp [h]
  · simp [hentry]

theorem Entries.rows_ofList {entries : List (String × ρ)} (h : (entries.map Prod.fst).Nodup) :
    (Entries.ofList entries).rows = entries := by
  unfold Entries.ofList
  rw [Table.rows_foldl_set _ (by simpa using h)]
  rfl

theorem Entries.get_ofList {entries : List (String × ρ)} (h : (entries.map Prod.fst).Nodup)
    {id : String} {entry : ρ} :
    (Entries.ofList entries).get id = some entry ↔ (id, entry) ∈ entries := by
  unfold Entries.get
  simp only [Option.map_eq_some_iff, Table.find?_some, Entries.rows_ofList h]
  constructor
  · rintro ⟨⟨_, _⟩, ⟨hmem, rfl⟩, rfl⟩
    exact hmem
  · exact fun hmem => ⟨_, ⟨hmem, rfl⟩, rfl⟩

theorem Entries.mem_removed (ids : List ℕ) (entry : String × ρ) :
    entry ∈ (ids.foldl (fun projected id => projected.remove (Nat.repr id)) projected).rows ↔
      entry ∈ projected.rows ∧ ∀ id ∈ ids, entry.1 ≠ Nat.repr id := by
  induction ids generalizing projected with
  | nil => simp
  | cons id ids ih =>
    rw [List.foldl_cons, ih, Entries.remove, Table.rows_delete, List.mem_filter]
    simp only [Bool.not_eq_true', decide_eq_false_iff_not, List.mem_cons, forall_eq_or_imp,
      and_assoc]

variable [DecidableEq ρ] {expected : ℕ → Except String (Option ρ)}
  {difference : String → Option ρ → Option ρ → Difference} {extraRow : String → ρ → Difference}
  {ids : List ℕ} {projected' : Entries ρ}

theorem compareEntries_eq (hids : ids.Nodup)
    (hsame : ∀ id ∈ ids, projected.get (Nat.repr id) = projected'.get (Nat.repr id)) :
    (ids.foldlM (fun projected id => do
        compareEntry expected difference projected id
        pure (projected.remove (Nat.repr id))) projected : Run (Entries ρ)) =
      ids.forM (compareEntry expected difference projected') >>= fun _ =>
        pure (ids.foldl (fun projected id => projected.remove (Nat.repr id)) projected) := by
  induction ids generalizing projected with
  | nil => rfl
  | cons id ids ih =>
    obtain ⟨hnew, hids⟩ := List.nodup_cons.mp hids
    have hround : compareEntry expected difference projected id =
        compareEntry expected difference projected' id := by
      unfold compareEntry
      rw [hsame id List.mem_cons_self]
    have hrest : ∀ id' ∈ ids, (projected.remove (Nat.repr id)).get (Nat.repr id') =
        projected'.get (Nat.repr id') := by
      intro id' hid'
      rw [Entries.get_remove, hsame id' (List.mem_cons_of_mem id hid')]
      rw [ne_eq, repr_injective]
      rintro rfl
      exact hnew hid'
    have hloop : (id :: ids).forM (compareEntry expected difference projected') =
        compareEntry expected difference projected' id >>= fun _ =>
          ids.forM (compareEntry expected difference projected') := rfl
    rw [List.foldlM_cons, hround, hloop]
    simp only [bind_assoc, pure_bind, ih hids hrest, List.foldl_cons]

theorem compareEntry_compares (id : ℕ) :
    Compares (compareEntry expected difference projected id) (∃ entry, expected id = .ok entry)
      fun d => ∃ entry, expected id = .ok entry ∧ projected.get (Nat.repr id) ≠ entry ∧
        d = difference (Nat.repr id) (projected.get (Nat.repr id)) entry := by
  refine (audits_answer (R := fun _ => True) fun entry _ => push_compares _).congr (by simp)
    fun d => ?_
  refine exists_congr fun entry => and_congr_right fun _ => ?_
  split <;> simp [*]

/-- What the pass over a range of ids finds: the entries that differ, when the ids
below were read, and those that no id takes, when all were. -/
theorem compareEntries_compares (hids : ids.Pairwise (· < ·)) :
    Compares (compareEntries expected difference extraRow ids projected)
      (∀ id ∈ ids, ∃ entry, expected id = .ok entry) fun d =>
        (∃ id ∈ ids, (∀ id' ∈ ids, id' < id → ∃ entry, expected id' = .ok entry) ∧
          ∃ entry, expected id = .ok entry ∧ projected.get (Nat.repr id) ≠ entry ∧
            d = difference (Nat.repr id) (projected.get (Nat.repr id)) entry) ∨
        (∀ id ∈ ids, ∃ entry, expected id = .ok entry) ∧
          ∃ entry ∈ projected.rows, (∀ id ∈ ids, entry.1 ≠ Nat.repr id) ∧
            d = extraRow entry.1 entry.2 := by
  unfold compareEntries
  rw [compareEntries_eq (hids.imp fun h => h.ne) fun _ _ => rfl]
  simp only [bind_assoc, pure_bind]
  refine (audits_seq (audits_forM id hids fun id _ => compareEntry_compares id)
    (push_compares _)).congr (by simp) fun d => or_congr Iff.rfl (and_congr_right fun _ => ?_)
  simp only [List.mem_map, Entries.mem_removed, and_assoc, eq_comm (a := d)]

end

theorem expectedSale_status {status : String} {chainSale : ChainSale} :
    .str status = expectedSale chainSale .status ↔ statuses[chainSale.status]? = some status := by
  unfold expectedSale
  cases statuses[chainSale.status]? with
  | none => simp
  | some known => simp [eq_comm]

/-- A sale differs in no field exactly when it agrees. -/
theorem saleAgrees_iff {projected : ProjectedSale} {chainSale : ChainSale} :
    SaleAgrees projected chainSale ↔
      ∀ field, projected.get field = expectedSale chainSale field := by
  have hnullable : ∀ {a : Option String} {c : Prop} [Decidable c] {text : String},
      (nullable a = if c then .null else .str text) ↔ a = if c then none else some text := by
    intro a c _ text
    cases a with
    | none => split <;> simp [nullable]
    | some a => split <;> simp [nullable]
  have hreclaimed : (projected.tokenReclaimed : ℚ) =
      (if chainSale.tokenReclaimed then 1 else 0) ↔
        projected.tokenReclaimed = if chainSale.tokenReclaimed then 1 else 0 := by
    split
    · exact_mod_cast Iff.rfl
    · exact_mod_cast Iff.rfl
  have hallowed : nullable projected.allowedBuyer = .str (lower chainSale.allowedBuyer) ↔
      projected.allowedBuyer = some (lower chainSale.allowedBuyer) := by
    cases projected.allowedBuyer <;> simp [nullable]
  have hfields : (∀ field, projected.get field = expectedSale chainSale field) ↔
      ∀ field ∈ SaleField.all, projected.get field = expectedSale chainSale field :=
    ⟨fun h field _ => h field, fun h field => h field (SaleField.mem_all field)⟩
  rw [hfields]
  simp only [SaleField.all, List.forall_mem_cons, ProjectedSale.get, expectedSale, hnullable,
    hallowed, Primitive.str.injEq, Primitive.num.injEq, hreclaimed]
  constructor
  · intro h
    exact ⟨h.tokenId, h.seller, h.allowedBuyer, h.buyer, h.priceWei, h.fundedAt, h.expiresAt,
      expectedSale_status.mpr h.status, h.tokenReclaimed, fun _ hf => absurd hf List.not_mem_nil⟩
  · rintro ⟨h₁, h₂, h₃, h₄, h₅, h₆, h₇, h₈, h₉, _⟩
    exact ⟨h₁, h₂, h₃, h₄, h₅, h₆, h₇, expectedSale_status.mp h₈, h₉⟩

theorem compareSale_compares (chain : ChainAnswers) (projected : ProjectedSale) :
    Compares (compareSale chain projected)
      (∃ chainSale, chain.getSale (value projected.saleId.toList) = .ok chainSale) fun d =>
        ∃ chainSale, chain.getSale (value projected.saleId.toList) = .ok chainSale ∧
          ∃ field, projected.get field ≠ expectedSale chainSale field ∧
            d = .saleField (Nat.repr (value projected.saleId.toList)) field (projected.get field)
              (expectedSale chainSale field) := by
  refine (audits_answer (R := fun _ => True) fun chainSale _ => push_compares _).congr (by simp)
    fun d => exists_congr fun chainSale => and_congr_right fun _ => ?_
  simp [SaleField.mem_all, eq_comm (a := d)]

theorem outOfRange_eq_false {saleCount : ℕ} {projected : ProjectedSale} :
    outOfRange saleCount projected = false ↔
      1 ≤ value projected.saleId.toList ∧ value projected.saleId.toList ≤ saleCount := by
  simp only [outOfRange, Bool.or_eq_false_iff, decide_eq_false_iff_not]
  omega

theorem mem_ids {n id : ℕ} : id ∈ List.range' 1 n ↔ 1 ≤ id ∧ id ≤ n := by
  rw [List.mem_range'_1]
  omega

section
variable {chain : ChainAnswers} {projection : Projection}

theorem Projection.saleId_iff {r : ProjectedSale} (hr : r ∈ projection.sales.rows) {id : ℕ} :
    r.saleId = Nat.repr id ↔ value r.saleId.toList = id := by
  constructor
  · intro h
    rw [h, value_repr]
  · rintro rfl
    exact (repr_of_canonicalUint256 (projection.sale_id_check r hr)).symm

theorem outOfRange_iff {saleCount : ℕ} {r : ProjectedSale} (hr : r ∈ projection.sales.rows) :
    outOfRange saleCount r = true ↔ ∀ id, 1 ≤ id → id ≤ saleCount → r.saleId ≠ Nat.repr id := by
  simp only [ne_eq, Projection.saleId_iff hr]
  rw [← Bool.not_eq_false, outOfRange_eq_false]
  exact ⟨fun h id hle hge hid => h (hid ▸ ⟨hle, hge⟩), fun h hin => h _ hin.1 hin.2 rfl⟩

theorem bySaleId_sorted : (bySaleId ProjectedSale.saleId projection.sales.rows).Pairwise
    fun a b => value a.saleId.toList < value b.saleId.toList := by
  have hcanonical : ∀ r ∈ projection.sales.rows, r.saleId = Nat.repr (value r.saleId.toList) :=
    fun r hr => (Projection.saleId_iff hr).mpr rfl
  have hperm : (bySaleId ProjectedSale.saleId projection.sales.rows).Perm projection.sales.rows :=
    List.perm_insertionSort _ _
  have hle : ((bySaleId ProjectedSale.saleId projection.sales.rows).map
      fun r => value r.saleId.toList).Pairwise (· ≤ ·) := by
    rw [bySaleId, List.map_insertionSort _ (· ≤ ·)]
    · exact List.pairwise_insertionSort _ _
    · intro a ha b hb
      rw [hcanonical a ha, hcanonical b hb, repr_order, value_repr, value_repr]
  have hne : (bySaleId ProjectedSale.saleId projection.sales.rows).Pairwise
      fun a b => value a.saleId.toList ≠ value b.saleId.toList := by
    have hnodup := (hperm.map ProjectedSale.saleId).nodup_iff.mpr projection.sales.nodup
    refine (List.pairwise_map.mp hnodup).imp_of_mem fun {a b} ha hb hab heq => hab ?_
    rw [hcanonical a (hperm.mem_iff.mp ha), hcanonical b (hperm.mem_iff.mp hb), heq]
  exact ((List.pairwise_map.mp hle).and hne).imp fun h => lt_of_le_of_ne h.1 h.2

theorem compareSales_compares (saleCount : ℕ) :
    Compares (compareSales chain (bySaleId ProjectedSale.saleId projection.sales.rows) saleCount)
      (SalesRead chain projection saleCount) (SaleDifference chain projection saleCount) := by
  have hmem : ∀ r, r ∈ bySaleId ProjectedSale.saleId projection.sales.rows ↔
      r ∈ projection.sales.rows := fun r => List.mem_insertionSort _
  have hinRange : ∀ r, r ∈ (bySaleId ProjectedSale.saleId projection.sales.rows).filter
      (fun projected => !outOfRange saleCount projected) ↔ r ∈ projection.sales.rows ∧
        1 ≤ value r.saleId.toList ∧ value r.saleId.toList ≤ saleCount := by
    intro r
    rw [List.mem_filter, hmem, Bool.not_eq_true', outOfRange_eq_false]
  refine (audits_seq (push_compares _) (audits_seq (push_compares _)
    (audits_forM (fun r => value r.saleId.toList) (bySaleId_sorted.filter _)
      fun r _ => compareSale_compares chain r))).congr ?_ fun d => ?_
  · simp only [true_and, hinRange]
    constructor
    · rintro h id hle hge ⟨r, hr, hid⟩
      obtain rfl := (Projection.saleId_iff hr).mp hid
      exact h r ⟨hr, hle, hge⟩
    · rintro h r ⟨hr, hle, hge⟩
      exact h _ hle hge ⟨r, hr, (Projection.saleId_iff hr).mpr rfl⟩
  · simp only [true_and, hinRange]
    constructor
    · rintro (hmissing | hextra | ⟨r, ⟨hr, hle, hge⟩, hbelow, chainSale, hsale, field, hdiffers, rfl⟩)
      · simp only [List.mem_map, List.mem_filter, mem_ids, hmem, decide_eq_true_eq, not_exists,
          not_and] at hmissing
        obtain ⟨id, ⟨⟨hle, hge⟩, hnone⟩, rfl⟩ := hmissing
        exact .missing hle hge hnone
      · simp only [List.mem_map, List.mem_filter, hmem] at hextra
        obtain ⟨r, ⟨hr, hout⟩, rfl⟩ := hextra
        rw [← (Projection.saleId_iff hr).mpr rfl]
        exact .extra hr ((outOfRange_iff hr).mp hout)
      · have hid := (Projection.saleId_iff hr).mpr rfl
        rw [← hid]
        refine .field hle hge hr hid (fun id hid hlt => ?_) hsale hdiffers
        rintro ⟨r', hr', hsame⟩
        obtain rfl := (Projection.saleId_iff hr').mp hsame
        exact hbelow r' ⟨hr', hid, by omega⟩ (by omega)
    · intro hd
      cases hd with
      | missing hle hge hnone =>
        refine .inl (List.mem_map.mpr ⟨_, List.mem_filter.mpr ⟨mem_ids.mpr ⟨hle, hge⟩, ?_⟩, rfl⟩)
        rw [decide_eq_true_eq, List.mem_map]
        rintro ⟨r, hr, hid⟩
        exact hnone r ((hmem r).mp hr) hid
      | @extra r hr hextra =>
        refine .inr (.inl (List.mem_map.mpr ⟨r, List.mem_filter.mpr ⟨(hmem r).mpr hr,
          (outOfRange_iff hr).mpr hextra⟩, ?_⟩))
        rw [← (Projection.saleId_iff hr).mpr rfl]
      | @field id hle hge r hr hid hbelow chainSale hsale field hdiffers =>
        obtain rfl := (Projection.saleId_iff hr).mp hid
        refine .inr (.inr ⟨r, ⟨hr, hle, hge⟩, fun b hb hlt => ?_, chainSale, hsale, field, hdiffers,
          ?_⟩)
        · exact hbelow _ hb.2.1 (by omega) ⟨b, hb.1, (Projection.saleId_iff hb.1).mpr rfl⟩
        · rw [← hid]

/-- The rows of the sales agree exactly when no sale differs. -/
theorem salesAgree_iff {saleCount : ℕ} (hread : SalesRead chain projection saleCount) :
    SalesAgree chain projection saleCount ↔ ∀ d, ¬SaleDifference chain projection saleCount d := by
  constructor
  · rintro ⟨hrows, hextra⟩ d hd
    cases hd with
    | missing hle hge hnone =>
      obtain ⟨r, hr, hid, _⟩ := hrows _ hle hge
      exact hnone r hr hid
    | extra hr hnone =>
      obtain ⟨id, hle, hge, hid⟩ := hextra _ hr
      exact hnone id hle hge hid
    | field hle hge hr hid _ hsale hdiffers =>
      obtain ⟨r', hr', hid', chainSale', hsale', hagrees⟩ := hrows _ hle hge
      obtain rfl := Table.eq_of_key hr' hr (hid'.trans hid.symm)
      obtain rfl := Except.ok.inj (hsale'.symm.trans hsale)
      exact hdiffers (saleAgrees_iff.mp hagrees _)
  · intro hnone
    constructor
    · intro id hle hge
      have hrow : ∃ r ∈ projection.sales.rows, r.saleId = Nat.repr id := by
        by_contra hmissing
        exact hnone _ (.missing hle hge fun r hr hid => hmissing ⟨r, hr, hid⟩)
      obtain ⟨chainSale, hsale⟩ := hread id hle hge hrow
      obtain ⟨r, hr, hid⟩ := hrow
      refine ⟨r, hr, hid, chainSale, hsale, saleAgrees_iff.mpr fun field => ?_⟩
      by_contra hdiffers
      exact hnone _ (.field hle hge hr hid (fun id' hle' hlt => hread id' hle' (by omega)) hsale
        hdiffers)
    · intro r hr
      by_contra hextra
      exact hnone _ (.extra hr fun id hle hge hid => hextra ⟨id, hle, hge, hid⟩)

theorem toPaymentClaim_iff {r : ProjectedClaim} {chainClaim : ChainClaim} :
    r.toPaymentClaim = ⟨lower chainClaim.beneficiary, Nat.repr chainClaim.amountWei,
      claimKinds[chainClaim.kind]?, claimStatuses[chainClaim.status]?⟩ ↔
        ClaimAgrees r chainClaim := by
  simp only [ProjectedClaim.toPaymentClaim, PaymentClaim.mk.injEq]
  constructor
  · rintro ⟨hbeneficiary, hamount, hkind, hstatus⟩
    exact ⟨hbeneficiary, hamount, hkind.symm, hstatus.symm⟩
  · intro h
    exact ⟨h.beneficiary, h.amountWei, h.kind.symm, h.status.symm⟩

theorem ids_sorted (n : ℕ) : (List.range' 1 n).Pairwise (· < ·) :=
  List.pairwise_lt_range' 1 (by decide)

theorem claims_perm :
    (bySaleId ProjectedClaim.saleId projection.claims.rows).Perm projection.claims.rows :=
  List.perm_insertionSort _ _

theorem projectedClaims_keys : (((bySaleId ProjectedClaim.saleId projection.claims.rows).map
    fun r => (r.saleId, r.toPaymentClaim)).map Prod.fst).Nodup := by
  rw [List.map_map]
  exact (claims_perm.map ProjectedClaim.saleId).nodup_iff.mpr projection.claims.nodup

theorem projectedClaims_rows (entry : String × PaymentClaim) :
    entry ∈ (projectedClaims (bySaleId ProjectedClaim.saleId projection.claims.rows)).rows ↔
      ∃ r ∈ projection.claims.rows, (r.saleId, r.toPaymentClaim) = entry := by
  rw [projectedClaims, Entries.rows_ofList projectedClaims_keys]
  simp only [List.mem_map, claims_perm.mem_iff]

theorem projectedClaims_get (id : String) :
    (projectedClaims (bySaleId ProjectedClaim.saleId projection.claims.rows)).get id =
      (projection.claims.find? id).map ProjectedClaim.toPaymentClaim := by
  ext claim
  rw [projectedClaims, Entries.get_ofList projectedClaims_keys]
  simp only [List.mem_map, claims_perm.mem_iff, Option.map_eq_some_iff, Table.find?_some,
    Prod.mk.injEq, and_assoc]

theorem compareClaims_compares (saleCount : ℕ) :
    Compares (compareClaims chain (bySaleId ProjectedClaim.saleId projection.claims.rows) saleCount)
      (ClaimsRead chain saleCount) (ClaimDifference chain projection saleCount) := by
  have hreads : ∀ id, (∃ entry, (chain.getPaymentClaim id).map expectedClaim = .ok entry) ↔
      ∃ chainClaim, chain.getPaymentClaim id = .ok chainClaim := by
    intro id
    simp only [map_ok]
    exact ⟨fun ⟨_, c, hc, _⟩ => ⟨c, hc⟩, fun ⟨c, hc⟩ => ⟨_, c, hc, rfl⟩⟩
  refine (compareEntries_compares (ids_sorted saleCount)).congr ?_ fun d => ?_
  · simp only [mem_ids, hreads, and_imp]
    exact Iff.rfl
  · simp only [mem_ids, hreads, projectedClaims_get, projectedClaims_rows]
    constructor
    · rintro (⟨id, ⟨hle, hge⟩, hbelow, entry, hentry, hdiffers, rfl⟩ |
        ⟨hread, _, ⟨r, hr, rfl⟩, hextra, rfl⟩)
      · obtain ⟨chainClaim, hclaim, rfl⟩ := map_ok.mp hentry
        exact .claim hle hge (fun id' hle' hlt => hbelow id' ⟨hle', by omega⟩ (by omega)) hclaim
          hdiffers
      · exact .extra hr (fun id hle hge => hread id ⟨hle, hge⟩) fun id hle hge => hextra id ⟨hle, hge⟩
    · intro hd
      cases hd with
      | claim hle hge hbelow hclaim hdiffers =>
        exact .inl ⟨_, ⟨hle, hge⟩, fun id' hid' hlt => hbelow id' hid'.1 (by omega), _,
          map_ok.mpr ⟨_, hclaim, rfl⟩, hdiffers, rfl⟩
      | extra hr hread hextra =>
        exact .inr ⟨fun id hid => hread id hid.1 hid.2, _, ⟨_, hr, rfl⟩,
          fun id hid => hextra id hid.1 hid.2, rfl⟩

/-- A sale's entry is the contract's claim exactly when its row agrees with it. -/
theorem claimEntry_iff {id : String} {chainClaim : ChainClaim} :
    (projection.claims.find? id).map ProjectedClaim.toPaymentClaim = expectedClaim chainClaim ↔
      if chainClaim.status = 0 then ∀ r ∈ projection.claims.rows, r.saleId ≠ id
      else ∃ r ∈ projection.claims.rows, r.saleId = id ∧ ClaimAgrees r chainClaim := by
  unfold expectedClaim
  split
  · rw [Option.map_eq_none_iff]
    exact Table.find?_none
  · simp only [Option.map_eq_some_iff, Table.find?_some, toPaymentClaim_iff, and_assoc]

/-- The rows of the claims agree exactly when no claim differs. -/
theorem claimsAgree_iff {saleCount : ℕ} (hread : ClaimsRead chain saleCount) :
    ClaimsAgree chain projection saleCount ↔
      ∀ d, ¬ClaimDifference chain projection saleCount d := by
  constructor
  · rintro ⟨hrows, hextra⟩ d hd
    cases hd with
    | claim hle hge _ hclaim hdiffers =>
      obtain ⟨chainClaim', hclaim', hagrees⟩ := hrows _ hle hge
      obtain rfl := Except.ok.inj (hclaim'.symm.trans hclaim)
      exact hdiffers (claimEntry_iff.mpr hagrees)
    | extra hr _ hnone =>
      obtain ⟨id, hle, hge, hid⟩ := hextra _ hr
      exact hnone id hle hge hid
  · intro hnone
    constructor
    · intro id hle hge
      obtain ⟨chainClaim, hclaim⟩ := hread id hle hge
      refine ⟨chainClaim, hclaim, claimEntry_iff.mp ?_⟩
      by_contra hdiffers
      exact hnone _ (.claim hle hge (fun id' hle' hlt => hread id' hle' (by omega)) hclaim hdiffers)
    · intro r hr
      by_contra hextra
      exact hnone _ (.extra hr hread fun id hle hge hid => hextra ⟨id, hle, hge, hid⟩)

theorem owners_perm : (byToken projection.owners.rows).Perm projection.owners.rows :=
  List.perm_insertionSort _ _

theorem Projection.collection_lower {r : ProjectedOwner} (hr : r ∈ projection.owners.rows) :
    lower r.collectionAddress = r.collectionAddress :=
  lower_of_hexLength (projection.ownership_collection_check r hr)

theorem projectedOwners_keys (collectionAddress : String) :
    ((((byToken projection.owners.rows).filter fun r =>
      lower r.collectionAddress = collectionAddress).map
        fun r => (r.tokenId, r.owner)).map Prod.fst).Nodup := by
  rw [List.map_map]
  apply List.Nodup.map_on
  · intro r hr r' hr' hid
    simp only [List.mem_filter, owners_perm.mem_iff, decide_eq_true_eq] at hr hr'
    apply Table.eq_of_key hr.1 hr'.1
    rw [Projection.collection_lower hr.1] at hr
    rw [Projection.collection_lower hr'.1] at hr'
    exact Prod.ext (hr.2.trans hr'.2.symm) hid
  · apply List.Nodup.filter
    exact owners_perm.nodup_iff.mpr projection.owners.nodup_rows

theorem mem_collection {collectionAddress : String} {r : ProjectedOwner} :
    r ∈ (byToken projection.owners.rows).filter
        (fun r => lower r.collectionAddress = collectionAddress) ↔
      r ∈ projection.owners.rows ∧ r.collectionAddress = collectionAddress := by
  rw [List.mem_filter, owners_perm.mem_iff, decide_eq_true_eq]
  exact and_congr_right fun hr => by rw [Projection.collection_lower hr]

theorem projectedOwners_rows (collectionAddress : String) (entry : String × String) :
    entry ∈ (projectedOwners collectionAddress (byToken projection.owners.rows)).rows ↔
      ∃ r ∈ projection.owners.rows, r.collectionAddress = collectionAddress ∧
        (r.tokenId, r.owner) = entry := by
  rw [projectedOwners, Entries.rows_ofList (projectedOwners_keys collectionAddress)]
  simp only [List.mem_map, mem_collection, and_assoc]

theorem projectedOwners_get (collectionAddress id : String) :
    (projectedOwners collectionAddress (byToken projection.owners.rows)).get id =
      (projection.owners.find? (collectionAddress, id)).map ProjectedOwner.owner := by
  ext owner
  rw [projectedOwners, Entries.get_ofList (projectedOwners_keys collectionAddress)]
  simp only [List.mem_map, mem_collection, Option.map_eq_some_iff, Table.find?_some,
    Prod.mk.injEq, and_assoc]

theorem mem_tokenIds {nextTokenId id : ℕ} :
    id ∈ List.range' 1 (nextTokenId - 1) ↔ 1 ≤ id ∧ id < nextTokenId := by
  rw [mem_ids]
  omega

theorem compareOwners_compares (collectionAddress : String) (nextTokenId : ℕ) :
    Compares (compareOwners chain collectionAddress (byToken projection.owners.rows) nextTokenId)
      (OwnersRead chain nextTokenId)
      (OwnerDifference chain collectionAddress projection nextTokenId) := by
  have hreads : ∀ id, (∃ entry, (chain.ownerOf id).map (fun owner => some (lower owner)) =
      .ok entry) ↔ ∃ owner, chain.ownerOf id = .ok owner := by
    intro id
    simp only [map_ok]
    exact ⟨fun ⟨_, owner, ho, _⟩ => ⟨owner, ho⟩, fun ⟨owner, ho⟩ => ⟨_, owner, ho, rfl⟩⟩
  refine (audits_seq (push_compares _) (compareEntries_compares (ids_sorted _))).congr ?_
    fun d => ?_
  · simp only [true_and, mem_tokenIds, hreads, and_imp]
    exact Iff.rfl
  · simp only [true_and, mem_tokenIds, hreads, projectedOwners_get, projectedOwners_rows]
    constructor
    · rintro (hother | ⟨id, ⟨hle, hlt⟩, hbelow, entry, hentry, hdiffers, rfl⟩ |
        ⟨hread, _, ⟨r, hr, hcollection, rfl⟩, hextra, rfl⟩)
      · simp only [List.mem_map, List.mem_filter, owners_perm.mem_iff, decide_eq_true_eq] at hother
        obtain ⟨r, ⟨hr, hne⟩, rfl⟩ := hother
        rw [Projection.collection_lower hr] at hne ⊢
        exact .collection hr hne
      · obtain ⟨owner, howner, rfl⟩ := map_ok.mp hentry
        exact .owner hle hlt (fun id' hle' hlt' => hbelow id' ⟨hle', by omega⟩ hlt') howner hdiffers
      · exact .extra hr hcollection (fun id hle hlt => hread id ⟨hle, hlt⟩)
          fun id hle hlt => hextra id ⟨hle, hlt⟩
    · intro hd
      cases hd with
      | @collection r hr hother =>
        refine .inl (List.mem_map.mpr ⟨r, List.mem_filter.mpr ⟨owners_perm.mem_iff.mpr hr, ?_⟩, ?_⟩)
        · rwa [Projection.collection_lower hr, decide_eq_true_eq]
        · rw [Projection.collection_lower hr]
      | owner hle hlt hbelow howner hdiffers =>
        exact .inr (.inl ⟨_, ⟨hle, hlt⟩, fun id' hid' hlt' => hbelow id' hid'.1 hlt', _,
          map_ok.mpr ⟨_, howner, rfl⟩, hdiffers, rfl⟩)
      | extra hr hcollection hread hextra =>
        exact .inr (.inr ⟨fun id hid => hread id hid.1 hid.2, _, ⟨_, hr, hcollection, rfl⟩,
          fun id hid => hextra id hid.1 hid.2, rfl⟩)

/-- The rows of the owners agree exactly when no owner differs. -/
theorem ownersAgree_iff {collectionAddress : String} {nextTokenId : ℕ}
    (hread : OwnersRead chain nextTokenId) :
    OwnersAgree chain collectionAddress projection nextTokenId ↔
      ∀ d, ¬OwnerDifference chain collectionAddress projection nextTokenId d := by
  constructor
  · rintro ⟨hrows, hextra, hcollection⟩ d hd
    cases hd with
    | collection hr hother => exact hother (hcollection _ hr)
    | @owner id hle hlt _ owner howner hdiffers =>
      obtain ⟨owner', howner', r, hr, hkept, hid, hsame⟩ := hrows _ hle hlt
      obtain rfl := Except.ok.inj (howner'.symm.trans howner)
      apply hdiffers
      rw [Table.find?_some.mpr ⟨hr, Prod.ext hkept hid⟩, Option.map_some, hsame]
    | extra hr _ _ hnone =>
      obtain ⟨id, hle, hlt, hid⟩ := hextra _ hr
      exact hnone id hle hlt hid
  · intro hnone
    have hcollection : ∀ r ∈ projection.owners.rows, r.collectionAddress = collectionAddress := by
      intro r hr
      by_contra hother
      exact hnone _ (.collection hr hother)
    constructor
    · intro id hle hlt
      obtain ⟨owner, howner⟩ := hread id hle hlt
      refine ⟨owner, howner, ?_⟩
      by_contra hmissing
      refine hnone _ (.owner hle hlt (fun id' hle' hlt' => hread id' hle' (by omega)) howner
        fun hsame => hmissing ?_)
      obtain ⟨r, hfind, hr⟩ := Option.map_eq_some_iff.mp hsame
      obtain ⟨hmem, hkey⟩ := Table.find?_some.mp hfind
      exact ⟨r, hmem, congrArg Prod.fst hkey, congrArg Prod.snd hkey, hr⟩
    · intro r hr
      by_contra hextra
      exact hnone _ (.extra hr (hcollection r hr) hread fun id hle hlt hid =>
        hextra ⟨id, hle, hlt, hid⟩)
    · exact hcollection

theorem compareSaleRange_compares :
    Compares (compareSaleRange chain projection)
      (∃ saleCount, chain.saleCount = .ok saleCount ∧ saleCount ≤ maxSafeInteger ∧
        SalesRead chain projection saleCount ∧ ClaimsRead chain saleCount)
      fun d => ∃ saleCount, chain.saleCount = .ok saleCount ∧ saleCount ≤ maxSafeInteger ∧
        (SaleDifference chain projection saleCount d ∨
          SalesRead chain projection saleCount ∧ ClaimDifference chain projection saleCount d) := by
  unfold compareSaleRange
  refine audits_answer fun saleCount _ => ?_
  refine (audits_seq (audits_throwIf _) <| audits_seq (setSaleScope_compares _ _) <|
    audits_seq (compareSales_compares saleCount) (compareClaims_compares saleCount)).congr ?_
      fun d => ?_
  · rw [not_lt, true_and]
  · simp only [not_lt, false_or, true_and]

theorem compareTokenRange_compares (manifest : Manifest) :
    Compares (compareTokenRange chain manifest projection)
      (∃ nextTokenId, chain.nextTokenId = .ok nextTokenId ∧ nextTokenId - 1 ≤ maxSafeInteger ∧
        OwnersRead chain nextTokenId)
      fun d => ∃ nextTokenId, chain.nextTokenId = .ok nextTokenId ∧
        nextTokenId - 1 ≤ maxSafeInteger ∧
        OwnerDifference chain (lower manifest.nftAddress) projection nextTokenId d := by
  unfold compareTokenRange
  refine audits_answer fun nextTokenId _ => ?_
  refine (audits_seq (audits_throwIf _) <| audits_seq (setTokenScope_compares _) <|
    compareOwners_compares (lower manifest.nftAddress) nextTokenId).congr ?_ fun d => ?_
  · rw [not_lt, true_and]
  · simp only [not_lt, false_or, true_and]

theorem compareAnchored_compares (manifest : Manifest) (blockHash : String) {head : ChainBlock}
    (hhead : chain.head = .ok head) :
    Compares (compareAnchored chain manifest blockHash projection)
      (∃ saleCount nextTokenId, AnchoredReads chain blockHash projection saleCount nextTokenId)
      (Recorded chain (lower manifest.nftAddress) projection blockHash) := by
  unfold compareAnchored
  refine (audits_answer fun before _ => audits_seq (audits_throwIf _) <|
    audits_seq compareSaleRange_compares <| audits_seq (compareTokenRange_compares manifest) <|
    audits_answer fun after _ => audits_throwIf _).congr ?_ fun d => ?_
  · constructor
    · rintro ⟨before, hbefore, hanchor, ⟨saleCount, hcounted, hscope, hsales, hclaims⟩,
        ⟨nextTokenId, hminted, htokens, howners⟩, after, hafter, hstill⟩
      exact ⟨saleCount, nextTokenId, ⟨before, hbefore, not_not.mp hanchor⟩, hcounted, hscope,
        hsales, hclaims, hminted, htokens, howners, ⟨after, hafter, not_not.mp hstill⟩⟩
    · rintro ⟨saleCount, nextTokenId, h⟩
      obtain ⟨before, hbefore, hanchor⟩ := h.before
      obtain ⟨after, hafter, hstill⟩ := h.after
      exact ⟨before, hbefore, not_not.mpr hanchor,
        ⟨saleCount, h.counted, h.saleScope, h.sales, h.claims⟩,
        ⟨nextTokenId, h.minted, h.tokenScope, h.owners⟩, after, hafter, not_not.mpr hstill⟩
  · constructor
    · rintro ⟨before, hbefore, hpast⟩
      obtain ⟨hanchor, hfound⟩ := hpast.resolve_left id
      refine ⟨⟨head, hhead⟩, ⟨before, hbefore, not_not.mp hanchor⟩, ?_⟩
      rcases hfound with ⟨saleCount, hcounted, hscope, hsale | ⟨hsales, hclaim⟩⟩ |
        ⟨⟨saleCount, hcounted, hscope, hsales, hclaims⟩, howner | ⟨_, _, _, ⟨⟩⟩⟩
      · exact ⟨saleCount, hcounted, hscope, .inl hsale⟩
      · exact ⟨saleCount, hcounted, hscope, .inr ⟨hsales, .inl hclaim⟩⟩
      · exact ⟨saleCount, hcounted, hscope, .inr ⟨hsales, .inr ⟨hclaims, howner⟩⟩⟩
    · rintro ⟨_, ⟨before, hbefore, hanchor⟩, saleCount, hcounted, hscope, hfound⟩
      refine ⟨before, hbefore, .inr ⟨not_not.mpr hanchor, ?_⟩⟩
      rcases hfound with hsale | ⟨hsales, hclaim | ⟨hclaims, howner⟩⟩
      · exact .inl ⟨saleCount, hcounted, hscope, .inl hsale⟩
      · exact .inl ⟨saleCount, hcounted, hscope, .inr ⟨hsales, hclaim⟩⟩
      · exact .inr ⟨⟨saleCount, hcounted, hscope, hsales, hclaims⟩, .inl howner⟩

/-- When every read succeeds, the rows are the contracts' answers exactly when no
difference is met. -/
theorem agrees_iff {collectionAddress blockHash : String} {saleCount nextTokenId : ℕ}
    (h : Reads chain blockHash projection saleCount nextTokenId) :
    Agrees chain collectionAddress projection saleCount nextTokenId ↔
      ∀ d, ¬Recorded chain collectionAddress projection blockHash d := by
  constructor
  · rintro ⟨hsales, hclaims, howners⟩ d ⟨_, _, saleCount', hcounted, _, hfound⟩
    obtain rfl := Except.ok.inj (hcounted.symm.trans h.counted)
    rcases hfound with hsale | ⟨_, hclaim | ⟨_, nextTokenId', hminted, _, howner⟩⟩
    · exact (salesAgree_iff h.sales).mp hsales d hsale
    · exact (claimsAgree_iff h.claims).mp hclaims d hclaim
    · obtain rfl := Except.ok.inj (hminted.symm.trans h.minted)
      exact (ownersAgree_iff h.owners).mp howners d howner
  · intro hnone
    constructor
    · exact (salesAgree_iff h.sales).mpr fun d hd =>
        hnone d ⟨h.head, h.before, saleCount, h.counted, h.saleScope, .inl hd⟩
    · exact (claimsAgree_iff h.claims).mpr fun d hd =>
        hnone d ⟨h.head, h.before, saleCount, h.counted, h.saleScope, .inr ⟨h.sales, .inl hd⟩⟩
    · exact (ownersAgree_iff h.owners).mpr fun d hd =>
        hnone d ⟨h.head, h.before, saleCount, h.counted, h.saleScope,
          .inr ⟨h.sales, .inr ⟨h.claims, nextTokenId, h.minted, h.tokenScope, hd⟩⟩⟩

theorem Recorded.concrete {collectionAddress blockHash : String} {d : Difference}
    (h : Recorded chain collectionAddress projection blockHash d) : d.hasError = false := by
  obtain ⟨_, _, saleCount, _, _, hsale | ⟨_, hclaim | ⟨_, nextTokenId, _, _, howner⟩⟩⟩ := h
  · cases hsale <;> rfl
  · cases hclaim <;> rfl
  · cases howner <;> rfl

end

/-- What a verdict says of the reads, of what was recorded and of the list. -/
structure Exact (comparison : Comparison) (reads : Prop) (recorded : Difference → Prop)
    (differences : List Difference) : Prop where
  matched : comparison = .match ↔ reads ∧ ∀ d, ¬recorded d
  mismatched : comparison = .mismatch ↔ ∃ d, recorded d
  unverifiable : comparison = .unverifiable ↔ ¬reads ∧ ∀ d, ¬recorded d
  listed : ∀ d, d ∈ differences ∧ d.hasError = false ↔ recorded d

theorem hasKnownMismatch_iff {s : Progress} {recorded : Difference → Prop}
    (hlisted : ∀ d, d ∈ s.differences ∧ d.hasError = false ↔ recorded d) :
    s.hasKnownMismatch = true ↔ ∃ d, recorded d := by
  simp [Progress.hasKnownMismatch, ← hlisted]

/-- A failure is listed after what was recorded, and the verdict is a mismatch or
none. -/
theorem recordFailure_exact {message : String} {s : Progress} {reads : Prop}
    {recorded : Difference → Prop} (hreads : ¬reads)
    (hlisted : ∀ d, d ∈ s.differences ∧ d.hasError = false ↔ recorded d) :
    Ends (recordFailure message) s
      (fun comparison t => t.head = s.head ∧ Exact comparison reads recorded t.differences)
      fun _ _ => False := by
  have hknown := hasKnownMismatch_iff hlisted
  show _ ∧ Exact (if s.hasKnownMismatch then .mismatch else .unverifiable) reads recorded
    (s.differences ++ [.error message])
  refine ⟨rfl, ?_⟩
  constructor
  · split <;> simp [hreads]
  · rw [← hknown]
    split <;> simp [*]
  · rw [← not_exists, ← hknown]
    split <;> simp [*]
  · intro d
    rw [← hlisted, List.mem_append, List.mem_singleton]
    constructor
    · rintro ⟨hd | rfl, hconcrete⟩
      · exact ⟨hd, hconcrete⟩
      · cases hconcrete
    · rintro ⟨hd, hconcrete⟩
      exact ⟨.inl hd, hconcrete⟩

section
variable {chain : ChainAnswers} {projection : Projection}

theorem observe_exact (manifest : Manifest) (blockHash : String) :
    Ends (observe chain manifest blockHash projection) .start
      (fun comparison s => (s.head = none → ∀ head, chain.head ≠ .ok head) ∧
        Exact comparison ((∃ head, chain.head = .ok head) ∧ ∃ saleCount nextTokenId,
            AnchoredReads chain blockHash projection saleCount nextTokenId)
          (Recorded chain (lower manifest.nftAddress) projection blockHash) s.differences)
      fun _ _ => False := by
  unfold observe
  rw [ends_tryCatch, ends_bind]
  cases hhead : chain.head with
  | error message =>
    rw [ends_answer_error]
    have hnone : ∀ d, ¬Recorded chain (lower manifest.nftAddress) projection blockHash d := by
      rintro d ⟨⟨_, hread⟩, _⟩
      rw [hhead] at hread
      cases hread
    refine (recordFailure_exact ?_ fun d => ?_).mono (fun _ _ h => ⟨fun _ _ => nofun, h.2⟩)
      fun _ _ => id
    · rintro ⟨⟨_, ⟨⟩⟩, _⟩
    · exact iff_of_false (fun h => absurd h.1 List.not_mem_nil) (hnone d)
  | ok head =>
    rw [ends_answer_ok, ends_bind, ends_modify, ends_bind]
    have hlisted : ∀ {s : Progress}, Grows Progress.differences Progress.head
        (Recorded chain (lower manifest.nftAddress) projection blockHash)
        { Progress.start with head := some head } s →
        s.head = some head ∧ ∀ d, d ∈ s.differences ∧ d.hasError = false ↔
          Recorded chain (lower manifest.nftAddress) projection blockHash d := by
      intro s hgrows
      obtain ⟨found, hfound, hmem⟩ := hgrows.findings
      have hlist : s.differences = found := hfound
      refine ⟨hgrows.part, fun d => ?_⟩
      rw [hlist, hmem]
      exact ⟨fun h => h.1, fun h => ⟨h, h.concrete⟩⟩
    refine (compareAnchored_compares manifest blockHash hhead _).mono (fun _ s hs => ?_)
      fun message s hs => ?_
    · obtain ⟨hsome, hlisted⟩ := hlisted hs.1
      have hknown := hasKnownMismatch_iff hlisted
      show _ ∧ Exact (if s.hasKnownMismatch then .mismatch else .match) _ _ s.differences
      refine ⟨fun hnone => ?_, ?_⟩
      · rw [hsome] at hnone
        cases hnone
      · constructor
        · rw [← not_exists, ← hknown]
          split <;> simp [*]
        · rw [← hknown]
          split <;> simp [*]
        · split <;> simp [hs.2]
        · exact hlisted
    · obtain ⟨hsome, hlisted⟩ := hlisted hs.1
      refine (recordFailure_exact (fun h => hs.2 h.2) hlisted).mono
        (fun _ t ht => ⟨fun hnone => ?_, ht.2⟩) fun _ _ => id
      rw [ht.1, hsome] at hnone
      cases hnone

theorem reads_iff {blockHash : String} :
    (∃ saleCount nextTokenId, Reads chain blockHash projection saleCount nextTokenId) ↔
      ((∃ head, chain.head = .ok head) ∧ ∃ saleCount nextTokenId,
        AnchoredReads chain blockHash projection saleCount nextTokenId) ∧
        ∃ publicationHead, chain.publicationHead = .ok publicationHead := by
  constructor
  · rintro ⟨saleCount, nextTokenId, h⟩
    exact ⟨⟨h.head, saleCount, nextTokenId, h.toAnchoredReads⟩, h.publicationHead⟩
  · rintro ⟨⟨hhead, saleCount, nextTokenId, h⟩, hpublication⟩
    exact ⟨saleCount, nextTokenId, ⟨h, hhead, hpublication⟩⟩

theorem publish_exact {comparison : Comparison} {s : Progress} {reads : Prop}
    {recorded : Difference → Prop} (h : Exact comparison reads recorded s.differences)
    (hhead : s.head = none → ¬reads) :
    Ends (publish chain comparison) s
      (fun published t => Exact published.1
        (reads ∧ ∃ publicationHead, chain.publicationHead = .ok publicationHead) recorded
        t.differences)
      fun _ _ => False := by
  unfold publish
  rw [ends_bind, ends_get]
  cases hs : s.head with
  | none =>
    have hreads := hhead hs
    show Exact comparison _ recorded s.differences
    constructor
    · simp [h.matched, hreads]
    · exact h.mismatched
    · simp [h.unverifiable, hreads]
    · exact h.listed
  | some head =>
    dsimp only
    rw [ends_tryCatch, ends_bind]
    cases hanswer : chain.publicationHead with
    | ok publicationHead =>
      show Exact comparison _ recorded s.differences
      constructor
      · simp [h.matched]
      · exact h.mismatched
      · simp [h.unverifiable]
      · exact h.listed
    | error message =>
      rw [ends_answer_error, ends_bind]
      have hfailed : ¬(reads ∧ ∃ publicationHead,
          (Except.error message : Except String ChainBlock) = .ok publicationHead) := by
        rintro ⟨_, _, ⟨⟩⟩
      exact (recordFailure_exact hfailed h.listed).mono (fun _ _ ht => ht.2) fun _ _ => id

variable (chain projection) in
theorem run_exact (manifest : Manifest) (blockHash : String) :
    Ends (observe chain manifest blockHash projection >>= publish chain) .start
      (fun published t => Exact published.1
        (∃ saleCount nextTokenId, Reads chain blockHash projection saleCount nextTokenId)
        (Recorded chain (lower manifest.nftAddress) projection blockHash) t.differences)
      fun _ _ => False := by
  rw [ends_bind, reads_iff]
  refine (observe_exact manifest blockHash).mono (fun comparison s hs => ?_) fun _ _ => id
  apply publish_exact hs.2
  rintro hnone ⟨⟨head, hhead⟩, _⟩
  exact hs.1 hnone head hhead

end

/-- The report is `MATCH` exactly when every read succeeds, the anchor holds and
the rows are the contracts' answers; `MISMATCH` exactly when a difference is
listed; and `UNVERIFIABLE` exactly when a read or the anchor fails, or a range
is too large, and none is. It lists every difference that is met before the
first read that fails, and nothing else but failures. -/
theorem reconcile_verdict (chain : ChainAnswers) (manifest : Manifest)
    (checkpoint : Option Checkpoint) (projection : Projection) :
    (checkpoint.bind Checkpoint.lastScanned = none ∧
      reconcile chain manifest checkpoint projection = .error "READ_MODEL_UNINITIALIZED") ∨
    ∃ blockNumber blockHash report,
      checkpoint.bind Checkpoint.lastScanned = some (blockNumber, blockHash) ∧
      reconcile chain manifest checkpoint projection = .ok report ∧
      (report.comparison = .match ↔ ∃ saleCount nextTokenId,
        Reads chain blockHash projection saleCount nextTokenId ∧
        Agrees chain (lower manifest.nftAddress) projection saleCount nextTokenId) ∧
      (report.comparison = .mismatch ↔ ∃ d ∈ report.differences, d.hasError = false) ∧
      (report.comparison = .unverifiable ↔
        (¬∃ saleCount nextTokenId, Reads chain blockHash projection saleCount nextTokenId) ∧
        ¬∃ d ∈ report.differences, d.hasError = false) ∧
      ∀ d, d ∈ report.differences ∧ d.hasError = false ↔
        Recorded chain (lower manifest.nftAddress) projection blockHash d := by
  unfold reconcile
  cases checkpoint with
  | none => exact .inl ⟨rfl, rfl⟩
  | some c =>
    cases hscanned : c.lastScanned with
    | none => exact .inl ⟨hscanned, by simp [hscanned]⟩
    | some block =>
      obtain ⟨blockNumber, blockHash⟩ := block
      have hrun := run_exact chain projection manifest blockHash
      right
      simp only [Option.bind_some, hscanned, Option.map_some]
      unfold Ends at hrun
      split at hrun
      · rename_i published t hresult
        obtain ⟨comparison, publicationHead⟩ := published
        rw [hresult]
        have hknown : (∃ d ∈ t.differences, d.hasError = false) ↔
            ∃ d, Recorded chain (lower manifest.nftAddress) projection blockHash d :=
          exists_congr hrun.listed
        refine ⟨blockNumber, blockHash, _, rfl, rfl, hrun.matched.trans ?_,
          hrun.mismatched.trans hknown.symm, ?_, hrun.listed⟩
        · constructor
          · rintro ⟨⟨saleCount, nextTokenId, hreads⟩, hnone⟩
            exact ⟨saleCount, nextTokenId, hreads, (agrees_iff hreads).mpr hnone⟩
          · rintro ⟨saleCount, nextTokenId, hreads, hagrees⟩
            exact ⟨⟨saleCount, nextTokenId, hreads⟩, (agrees_iff hreads).mp hagrees⟩
        · have hnone := (not_congr hknown).trans not_exists
          exact hrun.unverifiable.trans (and_congr_right fun _ => hnone.symm)
      · exact hrun.elim

end MotorCove.Indexer.Reconcile
