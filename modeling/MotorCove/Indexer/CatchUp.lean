import MotorCove.Indexer.FixedChain
import MotorCove.Indexer.Progress

/-!
# Catching up

Against a chain that no longer changes and a client that answers or is out of
reach, a call of `ingestRange` either scans at least one block, or publishes the
target, or fails for the transport. The client may refuse the logs of a range as
too many; the range then shrinks.
-/

set_option autoImplicit false

namespace MotorCove.Indexer
open MotorCove.Text MotorCove.Fallible MotorCove.Effects
open MotorCove.Chain (Address Deployment VehicleNFT Uint256)

/-- The blocks of a chain up to its head, whose values fit the columns. -/
structure FixedChain.Linked (F : FixedChain) (B : Blocks) : Prop where
  parent : ∀ n, n < F.head.number → (F.block (n + 1)).parentHash = (F.block n).hash
  number : ∀ n, n ≤ F.head.number → (F.block n).number = n
  names : ∀ n, n ≤ F.head.number → B.Names (F.block n)
  fits : ∀ n, n ≤ F.head.number → HeaderFits B (F.block n)
  head : F.head = F.block F.head.number
  finalized : F.finalized = F.block F.finalized.number
  finalized_le : F.finalized.number ≤ F.head.number

/-- The request failed for the transport. -/
def OutOfReach {α : Type} (answer : Except ChainError α) : Prop :=
  ∃ e, answer = .error e ∧ e.isTransportFailure = true ∧ e.isBlockNotFound = false

inductive ChainReader.Unreachable {σ : Type} (reader : ChainReader σ) : Prop where
  | head (s : σ) (h : OutOfReach (reader.getHead s).1) : reader.Unreachable
  | finalized {getFinalizedHead : σ → Except ChainError BlockHeader × σ}
      (hsome : reader.getFinalizedHead = some getFinalizedHead) (s : σ)
      (h : OutOfReach (getFinalizedHead s).1) : reader.Unreachable
  | block (n : ℕ) (s : σ) (h : OutOfReach (reader.getBlock n s).1) : reader.Unreachable
  | events (headers : List BlockHeader) (s : σ)
      (h : OutOfReach (reader.getEvents headers s).1) : reader.Unreachable

/-- A client that answers each request from the chain or is out of reach. It may
refuse the logs of several blocks. -/
structure FixedChain.Available {σ : Type} (F : FixedChain) (reader : ChainReader σ) : Prop where
  head : ∀ s, (reader.getHead s).1 = .ok F.head ∨ OutOfReach (reader.getHead s).1
  finalized : ∃ getFinalizedHead, reader.getFinalizedHead = some getFinalizedHead ∧
    ∀ s, (getFinalizedHead s).1 = .ok F.finalized ∨ OutOfReach (getFinalizedHead s).1
  block : ∀ n, n ≤ F.head.number → ∀ s,
    (reader.getBlock n s).1 = .ok (F.block n) ∨ OutOfReach (reader.getBlock n s).1
  events : ∀ headers s,
    (∃ events, (reader.getEvents headers s).1 = .ok events ∧ ∀ e ∈ events, EventFits e) ∨
      OutOfReach (reader.getEvents headers s).1 ∨
      1 < headers.length ∧ ∃ e, (reader.getEvents headers s).1 = .error e ∧
        e.isRangeLimitFailure = true

def FixedChain.Reaches (F : FixedChain) (finality : Finality) (indexingDepth : ℕ) : Prop :=
  match finality with
  | .immediate => indexingDepth ≤ F.head.number
  | .rpcFinalized => indexingDepth = 0

/-- `ChainTransportUnavailableError`. -/
def IngestError.Unavailable (e : IngestError) : Prop :=
  ∃ operation cause, e = .transportUnavailable operation cause

section
variable {σ : Type}

def ChainReader.Raises (reader : ChainReader σ) (e : IngestError) : Prop :=
  reader.Unreachable ∧ ∃ cause : ChainError, e = .chain cause ∧ cause.isTransportFailure = true

def ChainReader.Fails (reader : ChainReader σ) (e : IngestError) : Prop :=
  reader.Unreachable ∧ e.Unavailable

end

section
variable {σ α : Type} {reader : ChainReader σ} {w : World σ} {P : α → World σ → Prop}
  {fails : IngestError → Prop} {K : Database → Prop}

/-- The program ends with a value, or with such an error and tables that satisfy `K`. -/
def Does (fails : IngestError → Prop) (K : Database → Prop) (x : Ingest σ α) (w : World σ)
    (P : α → World σ → Prop) : Prop :=
  Ends x w P fun e w' => fails e ∧ K w'.db

theorem Does.mono {x : Ingest σ α} {P' : α → World σ → Prop} (h : Does fails K x w P)
    (hP : ∀ a w', P a w' → P' a w') : Does fails K x w P' := Ends.mono h hP fun _ _ => id

theorem Does.weaken {K' : Database → Prop} {x : Ingest σ α} (h : Does fails K x w P)
    (hK : ∀ db, K db → K' db) : Does fails K' x w P :=
  Ends.mono h (fun _ _ => id) fun _ _ hfails => ⟨hfails.1, hK _ hfails.2⟩

theorem does_bind {β : Type} {x : Ingest σ α} {f : α → Ingest σ β} {P : β → World σ → Prop} :
    Does fails K (x >>= f) w P ↔ Does fails K x w fun a w' => Does fails K (f a) w' P := ends_bind

theorem does_pure {a : α} : Does fails K (pure a : Ingest σ α) w P ↔ P a w := ends_pure

theorem does_get {P : World σ → World σ → Prop} :
    Does fails K (get : Ingest σ (World σ)) w P ↔ P w w := Iff.rfl

theorem does_modify {f : World σ → World σ} {P : Unit → World σ → Prop} :
    Does fails K (modify f : Ingest σ Unit) w P ↔ P () (f w) := Iff.rfl

theorem does_note {act : Act} {P : Unit → World σ → Prop} :
    Does fails K (note act) w P ↔ P () { w with acts := w.acts ++ [act] } := Iff.rfl

theorem does_call {read : σ → Except ChainError α × σ} {a : α}
    (h : ∀ s, (read s).1 = .ok a ∨ OutOfReach (read s).1)
    (hlost : ∀ s, OutOfReach (read s).1 → reader.Unreachable) (hK : K w.db) :
    Does reader.Raises K (call read) w fun a' w' => a' = a ∧ w'.db = w.db := by
  rw [Does, call, ends_bind, ends_ask]
  rcases h w.chain with hok | ⟨e, herror, htransport, hfound⟩
  · rw [hok]
    exact ends_pure.mpr ⟨rfl, rfl⟩
  · have hreader := hlost _ ⟨e, herror, htransport, hfound⟩
    rw [herror]
    exact ends_throw.mpr ⟨⟨hreader, e, rfl, htransport⟩, hK⟩

theorem does_readChain {operation : String} {read : Ingest σ α}
    (h : Does reader.Raises K read w P) :
    Does reader.Fails K (readChain operation read) w P := by
  rw [Does, readChain, ends_tryCatch]
  apply Ends.mono h fun _ _ => id
  rintro _ w' ⟨⟨hlost, cause, rfl, htransport⟩, hK⟩
  simp only [htransport, if_true]
  exact ends_throw.mpr ⟨⟨hlost, operation, cause, rfl⟩, hK⟩

theorem does_update {f : Database → Except StoreError Database} {db : Database} (w : World σ)
    (h : f w.db = .ok db) :
    Does fails K (update f : Ingest σ Unit) w fun _ w' => w'.db = db := by
  simp only [Does, Ends, update, EStateM.run, h]

end

section
variable {σ : Type} {evidenceDigest : Evidence → String} {store : SqliteProjectionStore}
  {reader : ChainReader σ} {F : FixedChain} {B : Blocks} {finality : Finality}
  {indexingDepth : ℕ} {w : World σ} {fails : IngestError → Prop} {K : Database → Prop}

theorem FixedChain.Linked.target_le (hlinked : F.Linked B) (finality : Finality)
    (indexingDepth : ℕ) : F.target finality indexingDepth ≤ F.head.number := by
  cases finality with
  | immediate => exact Nat.sub_le _ _
  | rpcFinalized => exact hlinked.finalized_le

theorem readProjectionTarget_does (havailable : F.Available reader) (hlinked : F.Linked B)
    (hreaches : F.Reaches finality indexingDepth) (hK : K w.db) :
    Does reader.Raises K (readProjectionTarget reader finality indexingDepth) w
      fun observation w' =>
        observation = ⟨F.head, some (F.block (F.target finality indexingDepth))⟩ ∧
          w'.db = w.db := by
  unfold readProjectionTarget
  cases finality with
  | immediate =>
    rw [if_neg (by simp), does_bind]
    apply (does_call havailable.head .head hK).mono
    rintro _ w₁ ⟨rfl, h₁⟩
    have hdepth : ¬F.head.number < indexingDepth := not_lt.mpr hreaches
    simp only
    rw [if_neg hdepth]
    by_cases hzero : indexingDepth = 0
    · rw [if_pos hzero, does_pure, hzero]
      refine ⟨?_, h₁⟩
      rw [FixedChain.target, Nat.sub_zero, ← hlinked.head]
    · rw [if_neg hzero, does_bind]
      apply (does_call (havailable.block _ (Nat.sub_le _ _)) (.block _) (h₁ ▸ hK)).mono
      rintro _ w₂ ⟨rfl, h₂⟩
      exact does_pure.mpr ⟨rfl, h₂.trans h₁⟩
  | rpcFinalized =>
    have hzero : indexingDepth = 0 := hreaches
    obtain ⟨getFinalizedHead, hsome, hfinalized⟩ := havailable.finalized
    have hblock := hlinked.finalized
    rw [if_neg (by simp [hzero]), does_bind]
    apply (does_call havailable.head .head hK).mono
    rintro _ w₁ ⟨rfl, h₁⟩
    simp only [hsome]
    rw [does_bind]
    apply (does_call hfinalized (.finalized hsome) (h₁ ▸ hK)).mono
    rintro _ w₂ ⟨rfl, h₂⟩
    rw [if_neg (not_lt.mpr hlinked.finalized_le), does_bind]
    apply (does_call (havailable.block _ hlinked.finalized_le) (.block _) (h₂ ▸ h₁ ▸ hK)).mono
    rintro _ w₃ ⟨rfl, h₃⟩
    rw [← hblock, if_neg (by simp), does_pure]
    refine ⟨?_, h₃.trans (h₂.trans h₁)⟩
    rw [FixedChain.target, ← hblock]

theorem readTarget_does (havailable : F.Available reader) (hlinked : F.Linked B)
    (hreaches : F.Reaches finality indexingDepth) (operation : String) (hK : K w.db) :
    Does reader.Fails K (readTarget reader finality indexingDepth operation) w
      fun observation w' =>
        observation = ⟨F.head, some (F.block (F.target finality indexingDepth))⟩ ∧
          w'.db = w.db := by
  rw [readTarget, does_bind, Does, ends_tryCatch]
  apply Ends.mono (does_readChain (readProjectionTarget_does havailable hlinked hreaches hK))
  · rintro _ w₁ ⟨rfl, h₁⟩
    show Does reader.Fails K (note _ >>= fun _ => pure _) w₁ _
    rw [does_bind, does_note, does_pure]
    exact ⟨rfl, h₁⟩
  · rintro _ w₁ ⟨⟨hlost, failed, cause, rfl⟩, hK₁⟩
    rw [if_neg (by simp [IngestError.isFinalizedBlockHashChanged])]
    exact ends_throw.mpr ⟨⟨hlost, failed, cause, rfl⟩, hK₁⟩

def FixedChain.headers (F : FixedChain) (first count : ℕ) : List BlockHeader :=
  (List.range' first count).map F.block

theorem readHeaders_does (havailable : F.Available reader) {first count : ℕ}
    (hcount : first + count ≤ F.head.number + 1) (hK : K w.db) :
    Does reader.Fails K (readHeaders reader first count) w fun headers w' =>
      headers = F.headers first count ∧ w'.db = w.db := by
  induction count generalizing first w with
  | zero =>
    rw [readHeaders, does_pure]
    exact ⟨rfl, rfl⟩
  | succ count ih =>
    rw [readHeaders, does_bind]
    apply (does_readChain (does_call (havailable.block first (by omega)) (.block _) hK)).mono
    rintro _ w₁ ⟨rfl, h₁⟩
    rw [does_bind, does_note, does_bind]
    have hK₁ : K w₁.db := h₁ ▸ hK
    apply (ih (w := { w₁ with acts := w₁.acts ++ [.block first (F.block first)] }) (by omega)
      hK₁).mono
    rintro _ w₂ ⟨rfl, h₂⟩
    exact does_pure.mpr ⟨rfl, h₂.trans h₁⟩

theorem Does.fetched {first span : ℕ}
    {P : List BlockHeader × List OrderedEvent × ℕ → World σ → Prop} (h : Does fails K (fetchRange reader first span) w P) :
    Does fails K (fetchRange reader first span) w fun r w' =>
      P r w' ∧ Fetched reader first span r.1 r.2.1 r.2.2 :=
  Ends.mono (Ends.and h (fetchRange_went first span w))
    (fun _ _ hboth => by
      obtain ⟨hP, _, _, _, hfetched⟩ := hboth
      exact ⟨hP, hfetched⟩) fun _ _ hboth => hboth.1

theorem fetchRange_does (havailable : F.Available reader) {first span : ℕ}
    (hspan : first + span ≤ F.head.number) (hK : K w.db) :
    Does reader.Fails K (fetchRange reader first span) w fun r w' => ∃ k, k ≤ span ∧
      r.1 = F.headers first (k + 1) ∧ r.2.2 = first + k ∧ (∀ e ∈ r.2.1, EventFits e) ∧
      w'.db = w.db := by
  induction span using Nat.strongRecOn generalizing w with
  | ind span ih =>
    rw [fetchRange, does_bind, does_note, does_bind]
    apply (readHeaders_does (w := { w with acts := w.acts ++ [.attempt first (first + span)] })
      havailable (by omega) hK).mono
    rintro _ w₁ ⟨rfl, h₁⟩
    have hK₁ : K w₁.db := h₁ ▸ hK
    rw [does_bind, Does, ends_ask]
    have hshrink : ∀ e : ChainError, span ≠ 0 →
        (e.isTransportFailure = true ∨ e.isRangeLimitFailure = true) →
        Does reader.Fails K
          (if e.isTransportFailure = false ∧ e.isRangeLimitFailure = false then throw (.chain e)
          else if h : span = 0 then
            if e.isTransportFailure = true then throw (.transportUnavailable "event range" e)
            else throw (.chain e)
          else fetchRange reader first (span / 2))
          { w₁ with chain := (reader.getEvents (F.headers first (span + 1)) w₁.chain).2 }
          fun r w' => ∃ k, k ≤ span ∧ r.1 = F.headers first (k + 1) ∧ r.2.2 = first + k ∧
            (∀ e ∈ r.2.1, EventFits e) ∧ w'.db = w.db := by
      intro e hspan₀ hkind
      have hrefused : ¬(e.isTransportFailure = false ∧ e.isRangeLimitFailure = false) := by
        rintro ⟨ht, hr⟩
        rcases hkind with h | h
        · exact Bool.false_ne_true (ht.symm.trans h)
        · exact Bool.false_ne_true (hr.symm.trans h)
      have hlt : span / 2 < span := Nat.div_lt_self (Nat.pos_of_ne_zero hspan₀) (by decide)
      rw [if_neg hrefused, dif_neg hspan₀]
      apply (ih (span / 2) hlt (w := { w₁ with
        chain := (reader.getEvents (F.headers first (span + 1)) w₁.chain).2 }) (by omega) hK₁).mono
      rintro r w₂ ⟨k, hk, hheaders, hlast, hfits, h₂⟩
      exact ⟨k, by omega, hheaders, hlast, hfits, h₂.trans h₁⟩
    rcases havailable.events (F.headers first (span + 1)) w₁.chain with
      ⟨events, hevents, hfits⟩ | ⟨e, herror, htransport, hfound⟩ | ⟨hlength, e, herror, hlimit⟩
    · rw [hevents]
      exact does_pure.mpr ⟨span, le_rfl, rfl, rfl, hfits, h₁⟩
    · have hreader : reader.Unreachable := .events _ _ ⟨e, herror, htransport, hfound⟩
      rw [herror]
      by_cases hspan₀ : span = 0
      · simp only
        rw [if_neg (by simp [htransport]), dif_pos hspan₀, if_pos htransport]
        exact ends_throw.mpr ⟨⟨hreader, _, e, rfl⟩, hK₁⟩
      · exact hshrink e hspan₀ (.inl htransport)
    · rw [herror]
      apply hshrink e _ (.inr hlimit)
      intro hzero
      simp [FixedChain.headers, hzero] at hlength

theorem FixedChain.mem_headers {first count : ℕ} {x : BlockHeader} :
    x ∈ F.headers first count ↔ ∃ n, first ≤ n ∧ n < first + count ∧ F.block n = x := by
  simp only [FixedChain.headers, List.mem_map, List.mem_range'_1, and_assoc]

theorem FixedChain.Linked.headers (hlinked : F.Linked B) {first k : ℕ}
    (hk : first + k ≤ F.head.number) :
    (F.headers first (k + 1)).head? = some (F.block first) ∧
      (F.headers first (k + 1)).getLast? = some (F.block (first + k)) ∧
      (F.headers first (k + 1)).IsChain (fun a b => b.parentHash = a.hash) ∧
      ∀ x ∈ F.headers first (k + 1), HeaderFits B x := by
  refine ⟨rfl, ?_, ?_, ?_⟩
  · rw [FixedChain.headers, List.getLast?_map, List.getLast?_range']
    simp
  · rw [FixedChain.headers, List.isChain_map, List.isChain_iff_getElem]
    intro i hi
    rw [List.length_range'] at hi
    rw [List.getElem_range', List.getElem_range']
    have hparent := hlinked.parent (first + 1 * i) (by omega)
    rwa [show first + 1 * i + 1 = first + 1 * (i + 1) by omega] at hparent
  · intro x hx
    obtain ⟨n, _, hn, rfl⟩ := FixedChain.mem_headers.mp hx
    exact hlinked.fits n (by omega)

theorem FixedChain.Linked.headerByNumber (hlinked : F.Linked B) {first count : ℕ}
    (hcount : first + count ≤ F.head.number + 1) {x : BlockHeader}
    (hx : x ∈ F.headers first count) :
    headerByNumber (F.headers first count) x.number = some x.hash := by
  unfold Indexer.headerByNumber
  cases hfind : (F.headers first count).reverse.find? fun y => y.number = x.number with
  | none =>
    have hnone := List.find?_eq_none.mp hfind x (List.mem_reverse.mpr hx)
    simp at hnone
  | some y =>
    have hnumber : y.number = x.number := by simpa using List.find?_some hfind
    have hy := List.mem_reverse.mp (List.mem_of_find?_eq_some hfind)
    obtain ⟨m, _, hm, rfl⟩ := FixedChain.mem_headers.mp hy
    obtain ⟨n, _, hn, rfl⟩ := FixedChain.mem_headers.mp hx
    rw [hlinked.number m (by omega), hlinked.number n (by omega)] at hnumber
    rw [hnumber]
    rfl

theorem Honest.located (hhonest : Honest B reader) (hlinked : F.Linked B) {first count : ℕ}
    (hcount : first + count ≤ F.head.number + 1) {events : List OrderedEvent}
    (hnames : ∀ x ∈ F.headers first count, B.Names x)
    (hanswered : Answers (reader.getEvents (F.headers first count)) events)
    (hfits : ∀ e ∈ events, EventFits e) :
    ∀ e ∈ sortEvents events,
      headerByNumber (F.headers first count) e.blockNumber = some e.blockHash := by
  intro e he
  have hmem : e ∈ events := (List.perm_insertionSort _ events).mem_iff.mp he
  have hbatch : lowered e ∈ B.batchEvents (F.headers first count) :=
    (hhonest.events _ _ hanswered).mem_iff.mp (List.mem_map_of_mem hmem)
  obtain ⟨x, hx, hex, hnumber⟩ := Blocks.number_event hnames hbatch
  obtain ⟨n, _, hn, hblock⟩ := FixedChain.mem_headers.mp hx
  have hlower : lower x.hash = x.hash := hblock ▸ (hlinked.fits n (by omega)).lower_hash
  have hhash : e.blockHash = x.hash := by
    have hlocated : lower e.blockHash = lower x.hash := (B.located _ _ hex).2.1
    rw [(hfits e hmem).lower_blockHash, hlower] at hlocated
    exact hlocated
  have hsame : e.blockNumber = x.number := hnumber
  rw [hsame, hhash]
  exact hlinked.headerByNumber hcount hx

theorem FixedChain.Linked.checked (hlinked : F.Linked B) (hhonest : Honest B reader)
    {first k span : ℕ} (hhead : first + k ≤ F.head.number) {checkpoint : Option BlockHeader}
    {events : List OrderedEvent}
    (hfetched : Fetched reader first span (F.headers first (k + 1)) events (first + k))
    (hcheckpoint : ∀ c ∈ checkpoint, first = c.number + 1 ∧ c.hash = (F.block c.number).hash)
    (hfits : ∀ e ∈ events, EventFits e) :
    Checked reader checkpoint first span (F.headers first (k + 1)) events (first + k)
      (F.block (first + k)) := by
  obtain ⟨hfirst, hfinal, hchain, _⟩ := hlinked.headers hhead
  constructor
  · exact hfetched
  · rw [hfirst, Option.map_some, hlinked.number first (by omega)]
  · intro c hc x hx
    obtain ⟨hnext, hhash⟩ := hcheckpoint c hc
    obtain rfl := Option.some.inj (hfirst.symm.trans hx)
    rw [hnext, hhash]
    exact hlinked.parent c.number (by omega)
  · exact hchain
  · exact hhonest.located hlinked (by omega) (hhonest.read_names hfetched.read)
      hfetched.answered hfits
  · exact hfinal

end

/-- A status that a scan moves on. -/
def ProjectionStatus.Scans (status : ProjectionStatus) : Prop :=
  status = .uninitialized ∨ status = .syncing ∨ status = .current ∨ status = .stale

/-- The store of a reindex scans under a barrier, too. -/
def SqliteProjectionStore.Scans (store : SqliteProjectionStore) (status : ProjectionStatus) :
    Prop :=
  status.Scans ∨ status = .recoveryRequired ∧ store.allowReindexRecovery = true

/-- The statuses between the observation and the end of a call. -/
def SqliteProjectionStore.Scanning (store : SqliteProjectionStore) (status : ProjectionStatus) :
    Prop :=
  status = .current ∨ status = .syncing ∨
    status = .recoveryRequired ∧ store.allowReindexRecovery = true

theorem SqliteProjectionStore.Scanning.scans {store : SqliteProjectionStore}
    {status : ProjectionStatus} (h : store.Scanning status) : store.Scans status := by
  rcases h with h | h | h
  · exact .inl (.inr (.inr (.inl h)))
  · exact .inl (.inr (.inl h))
  · exact .inr h

/-- The store follows the chain, not beyond the target. -/
structure FixedChain.Follows (F : FixedChain) (evidenceDigest : Evidence → String) (B : Blocks)
    (store : SqliteProjectionStore) (target : ℕ) (db : Database) : Prop where
  folded : ∃ chain, Folded evidenceDigest B store.collectionAddress chain db
  scope : Scoped store.logScopeHash db
  scans : store.Scans db.runtimeStatus.projectionStatus
  checkpoint : ∀ number hash, db.checkpoint.lastScanned = some (number, hash) →
    number ≤ target ∧ hash = lower (F.block number).hash

/-- Nothing that was scanned is lost, and no barrier is raised. -/
structure FixedChain.Keeps (F : FixedChain) (evidenceDigest : Evidence → String) (B : Blocks)
    (store : SqliteProjectionStore) (target : ℕ) (db db' : Database) : Prop where
  follows : F.Follows evidenceDigest B store target db'
  start : db'.scanStartBlock = db.scanStartBlock
  next_le : nextBlock db ≤ nextBlock db'
  stays : target < nextBlock db → nextBlock db' = nextBlock db
  free : db.runtimeStatus.projectionStatus.Scans → db'.runtimeStatus.projectionStatus.Scans

/-- A call scans at least one block below the target, and publishes an eligible one. -/
structure FixedChain.Advances (F : FixedChain) (evidenceDigest : Evidence → String) (B : Blocks)
    (store : SqliteProjectionStore) (target eligibleTarget : ℕ) (db db' : Database) : Prop extends
  F.Keeps evidenceDigest B store target db db' where
  next : nextBlock db ≤ target → nextBlock db < nextBlock db'
  current : target < nextBlock db' → target = eligibleTarget →
    db.runtimeStatus.projectionStatus.Scans → db'.runtimeStatus.projectionStatus = .current

section
variable {evidenceDigest : Evidence → String} {store : SqliteProjectionStore} {F : FixedChain}
  {B : Blocks} {target : ℕ} {db : Database} {chain : List BlockRow}

theorem FixedChain.Keeps.trans {db₁ db₂ : Database}
    (h : F.Keeps evidenceDigest B store target db db₁)
    (h' : F.Keeps evidenceDigest B store target db₁ db₂) :
    F.Keeps evidenceDigest B store target db db₂ where
  follows := h'.follows
  start := h'.start.trans h.start
  next_le := h.next_le.trans h'.next_le
  stays := fun hbeyond => by
    have hstays := h.stays hbeyond
    exact (h'.stays (by omega)).trans hstays
  free := fun hfree => h'.free (h.free hfree)

theorem FixedChain.Follows.setStatus (h : F.Follows evidenceDigest B store target db)
    {status : RuntimeStatus} (hscans : store.Scans status.projectionStatus) :
    F.Follows evidenceDigest B store target (db.setStatus status) where
  folded := by
    obtain ⟨chain, hfolded⟩ := h.folded
    exact ⟨chain, hfolded.setStatus status⟩
  scope := ⟨h.scope.rows, h.scope.checkpoint⟩
  scans := hscans
  checkpoint := h.checkpoint

theorem FixedChain.Follows.keeps (h : F.Follows evidenceDigest B store target db)
    {status : RuntimeStatus} (hscans : store.Scans status.projectionStatus)
    (hfree : db.runtimeStatus.projectionStatus.Scans → status.projectionStatus.Scans) :
    F.Keeps evidenceDigest B store target db (db.setStatus status) :=
  ⟨h.setStatus hscans, rfl, le_rfl, fun _ => rfl, hfree⟩

theorem Grounded.checkpoint_exists (h : Grounded evidenceDigest B chain db) :
    ∃ header, checkpoint db = .ok header := by
  unfold Indexer.checkpoint
  cases hlast : db.checkpoint.lastScanned with
  | none => exact ⟨none, rfl⟩
  | some last =>
    obtain ⟨number, hash⟩ := last
    rw [h.checkpoint] at hlast
    obtain ⟨b, hb, hpair⟩ := Option.map_eq_some_iff.mp hlast
    obtain ⟨hrow, hcanonical⟩ := (h.canonical b).mp (List.mem_of_getLast? hb)
    have hmatch : b.blockHash = hash ∧ b.canonical = true :=
      ⟨congrArg Prod.snd hpair, Bool.and_eq_true_iff.mpr
        ⟨hcanonical, (h.named b hrow).scanComplete⟩⟩
    simp only
    cases hfind : db.indexedBlocks.rows.find? fun b => b.blockHash = hash ∧ b.canonical = true with
    | none => exact absurd hmatch (by simpa using List.find?_eq_none.mp hfind b hrow)
    | some block => exact ⟨_, rfl⟩

theorem FixedChain.Follows.hashes (hlinked : F.Linked B) (hhead : target ≤ F.head.number)
    (h : F.Follows evidenceDigest B store target db)
    (hcovered : Grounded evidenceDigest B chain db) :
    chain.map BlockRow.blockHash =
      (List.range' db.scanStartBlock chain.length).map fun n => lower (F.block n).hash := by
  -- by induction on the distance from the checkpoint
  have hrows : ∀ k, ∀ b ∈ chain, b.blockNumber + k + 1 = db.scanStartBlock + chain.length →
      b.blockHash = lower (F.block b.blockNumber).hash := by
    intro k
    induction k with
    | zero =>
      intro b hb hlast
      have hfinal : chain.getLast? = some b := by
        obtain ⟨last, hlast'⟩ : ∃ last, chain.getLast? = some last :=
          ⟨_, List.getLast?_eq_some_getLast (List.ne_nil_of_mem hb)⟩
        have hlastmem := List.mem_of_getLast? hlast'
        have hscanned : db.checkpoint.lastScanned = some (last.blockNumber, last.blockHash) := by
          rw [hcovered.checkpoint, hlast']
          rfl
        have hnumber := (hcovered.toSpine.checkpoint_number hscanned).2
        rw [hlast', hcovered.toSpine.eq_of_number hlastmem hb (by omega)]
      apply (h.checkpoint b.blockNumber b.blockHash _).2
      rw [hcovered.checkpoint, hfinal]
      rfl
    | succ k ih =>
      intro b hb hnumber
      have hlow := (hcovered.toSpine.number_lt hb).1
      obtain ⟨c, hc, hcn⟩ := hcovered.toSpine.exists_number (n := b.blockNumber + 1)
        (by omega) (by omega)
      have hparent := ih c hc (by omega)
      have hle : c.blockNumber ≤ F.head.number := by
        have hcovers := (hcovered.toSpine.number_lt hc).2
        cases hlast : db.checkpoint.lastScanned with
        | none =>
          have hempty := hcovered.checkpoint
          rw [hlast, eq_comm, Option.map_eq_none_iff, List.getLast?_eq_none_iff] at hempty
          rw [hempty] at hc
          cases hc
        | some last =>
          have hnext := (hcovered.toSpine.checkpoint_number hlast).2
          have htarget := (h.checkpoint _ _ hlast).1
          omega
      have hlink := hcovered.toSpine.linked_of_number hb hc hcn
      have hnamed := (hcovered.named c ((hcovered.canonical c).mp hc).1).parentHash
      rw [← hlink, hnamed, hparent, hcn, ← (hlinked.names _ (hcn ▸ hle)).2,
        hlinked.parent b.blockNumber (by omega)]
  rw [← hcovered.numbers, List.map_map]
  apply List.map_congr_left
  intro b hb
  obtain ⟨hlow, hhigh⟩ := hcovered.toSpine.number_lt hb
  exact hrows (db.scanStartBlock + chain.length - b.blockNumber - 1) b hb (by omega)

end

section
variable {σ : Type} {evidenceDigest : Evidence → String} {store : SqliteProjectionStore}
  {reader : ChainReader σ} {F : FixedChain} {B : Blocks} {finality : Finality}
  {indexingDepth : ℕ} {w : World σ} {d : Deployment} {render : Address → String}
  {fails : IngestError → Prop} {K : Database → Prop}

theorem FixedChain.Linked.safe (hlinked : F.Linked B) {n : ℕ} (hn : n ≤ F.head.number) :
    safeInteger n = true := by
  have hfits := (hlinked.fits n hn).number
  rwa [hlinked.number n hn] at hfits

theorem FixedChain.Linked.headChecks (hlinked : F.Linked B) (finality : Finality)
    (indexingDepth : ℕ) :
    checkAll (headChecks F.head.number (F.target finality indexingDepth)) = .ok () := by
  rw [checkAll_ok]
  simp only [Indexer.headChecks, List.forall_mem_cons, List.not_mem_nil, false_implies,
    implies_true, and_true]
  exact ⟨hlinked.safe le_rfl, hlinked.safe (hlinked.target_le finality indexingDepth)⟩

theorem verifyCheckpoint_does (havailable : F.Available reader) {header : Option BlockHeader}
    (hheader : ∀ c ∈ header, c.number ≤ F.head.number ∧ c.hash = (F.block c.number).hash)
    (hK : K w.db) :
    Does reader.Fails K (verifyCheckpoint reader finality header) w
      fun _ w' => w'.db = w.db := by
  cases header with
  | none => exact does_pure.mpr rfl
  | some c =>
    obtain ⟨hle, hhash⟩ := hheader c rfl
    rw [verifyCheckpoint, does_bind, Does, ends_ask]
    rcases havailable.block c.number hle w.chain with hok | ⟨e, herror, htransport, hfound⟩
    · rw [hok]
      simp only
      rw [if_neg (by simp [hhash])]
      exact does_pure.mpr rfl
    · have hreader : reader.Unreachable := .block _ _ ⟨e, herror, htransport, hfound⟩
      rw [herror]
      simp only
      rw [if_pos ⟨hfound, htransport⟩]
      exact ends_throw.mpr ⟨⟨hreader, _, e, rfl⟩, hK⟩

theorem publish_does (hlinked : F.Linked B)
    (hscans : store.Scanning w.db.runtimeStatus.projectionStatus) :
    Does fails K (publish F.head.number (F.target finality indexingDepth)) w fun _ w' =>
      ∃ status : RuntimeStatus, w'.db = w.db.setStatus status ∧
        store.Scanning status.projectionStatus ∧
        (w.db.runtimeStatus.projectionStatus.Scans → status.projectionStatus = .current) := by
  rw [publish, does_bind, does_get, does_bind, does_note]
  have hmark : ∃ status : RuntimeStatus, markCurrent F.head.number
      (F.target finality indexingDepth) w.db = .ok (w.db.setStatus status) ∧
      store.Scanning status.projectionStatus ∧
      (w.db.runtimeStatus.projectionStatus.Scans → status.projectionStatus = .current) := by
    simp only [markCurrent]
    split
    · rw [hlinked.headChecks finality indexingDepth]
      exact ⟨_, rfl, .inl rfl, fun _ => rfl⟩
    · rename_i hbarred
      refine ⟨w.db.runtimeStatus, rfl, hscans, fun hfree => ?_⟩
      rcases hscans with h | h | ⟨h, _⟩
      · exact h
      · exact absurd (.inr (.inr h)) hbarred
      · rw [h] at hfree
        rcases hfree with h | h | h | h <;> cases h
  obtain ⟨status, hmark, hstatus⟩ := hmark
  have hupdate : Does fails K (update (markCurrent F.head.number
      (F.target finality indexingDepth))) { w with acts := w.acts ++
        [.markCurrent F.head.number (F.target finality indexingDepth) w.db] } _ :=
    does_update _ hmark
  exact hupdate.mono fun _ w' h => ⟨status, h, hstatus⟩

/-- After the observation of a target the status is one that is published, or
the barrier's. -/
theorem observe_does (hlinked : F.Linked B)
    (hscans : store.Scans w.db.runtimeStatus.projectionStatus) :
    Does fails K
      (update (observe F.head.number (F.target finality indexingDepth)) : Ingest σ Unit) w
      fun _ w' => ∃ status : RuntimeStatus, w'.db = w.db.setStatus status ∧
        store.Scanning status.projectionStatus ∧
        (w.db.runtimeStatus.projectionStatus.Scans → status.projectionStatus.Scans) := by
  have hobserve : observe F.head.number (F.target finality indexingDepth) w.db =
      .ok (w.db.setStatus { w.db.runtimeStatus with
        projectionStatus := if w.db.runtimeStatus.projectionStatus = .uninitialized ∨
          w.db.runtimeStatus.projectionStatus = .stale then .syncing
          else w.db.runtimeStatus.projectionStatus
        lastObservedHead := some F.head.number
        lastEligibleHead := some (F.target finality indexingDepth) }) := by
    rw [observe, hlinked.headChecks finality indexingDepth]
    rfl
  apply (does_update w hobserve).mono
  intro _ w' h
  refine ⟨_, h, ?_⟩
  show store.Scanning (if _ then _ else _) ∧ (_ → ProjectionStatus.Scans (if _ then _ else _))
  split
  · exact ⟨.inr (.inl rfl), fun _ => .inr (.inl rfl)⟩
  · rename_i hkept
    refine ⟨?_, id⟩
    rcases hscans with (h | h | h | h) | h
    · exact absurd (.inl h) hkept
    · exact .inr (.inl h)
    · exact .inl h
    · exact absurd (.inr h) hkept
    · exact .inr (.inr h)

theorem SqliteProjectionStore.Scans.admits {status : RuntimeStatus}
    (h : store.Scans status.projectionStatus) : store.Admits status := by
  intro hbarred
  rcases h with h | h
  · rw [hbarred] at h
    rcases h with h | h | h | h <;> cases h
  · exact h.2

variable {maximumTarget : Option ℕ} {target : ℕ}
  (hrender : ∀ a, lower (render a) = address a)
  (hcollection : lower store.collectionAddress = address d.nft)
  (hfault : ∀ point, store.commitFaultHook point = false)
  (hhonest : Honest B reader) (havailable : F.Available reader) (hlinked : F.Linked B)
  (hreaches : F.Reaches finality indexingDepth)

include havailable hlinked hreaches in
theorem publishLatest_does {n : ℕ} (hn : n ≤ F.head.number)
    (hscans : store.Scanning w.db.runtimeStatus.projectionStatus)
    (htarget : n = F.target finality indexingDepth) (hK : K w.db) :
    Does reader.Fails K (publishLatest reader finality indexingDepth (F.block n)) w
      fun _ w' => ∃ status : RuntimeStatus, w'.db = w.db.setStatus status ∧
        store.Scanning status.projectionStatus ∧
        (w.db.runtimeStatus.projectionStatus.Scans → status.projectionStatus = .current) := by
  rw [publishLatest, does_bind]
  apply (readTarget_does havailable hlinked hreaches _ hK).mono
  rintro _ w₁ ⟨rfl, h₁⟩
  simp only
  rw [← htarget, if_pos ⟨rfl, rfl⟩, hlinked.number n hn, htarget, ← h₁]
  rw [← h₁] at hscans
  exact publish_does hlinked hscans

include hrender hcollection hfault hlinked

theorem commitRange_does {headers : List BlockHeader} {events : List OrderedEvent} {last : ℕ}
    (htarget : target ≤ F.head.number)
    (hexec : Executes d render B w.db.scanStartBlock)
    (hfollows : F.Follows evidenceDigest B store target w.db)
    (hbatch : Extends B w.db headers events) (hfinal : headers.getLast? = some (F.block last))
    (hheaders : ∀ x ∈ headers, HeaderFits B x) (hevents : ∀ e ∈ events, EventFits e)
    (hlast : last ≤ target) :
    Does fails K (commitRange evidenceDigest store headers events (F.block last)) w fun _ w' =>
      F.Follows evidenceDigest B store target w'.db ∧
        w'.db.scanStartBlock = w.db.scanStartBlock ∧ nextBlock w'.db = last + 1 ∧
        w'.db.runtimeStatus = w.db.runtimeStatus := by
  obtain ⟨chain, hfolded⟩ := hfollows.folded
  obtain ⟨db', hcommit, hscanned, hstatus⟩ := commit_succeeds hfolded hfollows.scope.rows
    hfollows.scans.admits hrender hcollection hexec hbatch hfinal hheaders hevents hfault
  obtain ⟨added, hafter⟩ := folded_commit hfolded hbatch hfinal hcommit
  have hnumber := hlinked.number last (by omega)
  have hscope : Scoped store.logScopeHash
      (commit evidenceDigest store headers events (F.block last) w.db).2 :=
    hfollows.scope.commit _ _ _
  have hstart : (commit evidenceDigest store headers events (F.block last) w.db).2.scanStartBlock =
      w.db.scanStartBlock := (commit_kept _ _ _ _ _).1
  rw [hcommit] at hscope hstart
  rw [commitRange, does_bind, does_get, does_bind, does_note, does_bind, does_modify, hcommit]
  apply does_pure.mpr
  refine ⟨⟨⟨_, hafter⟩, hscope, ?_, ?_⟩, hstart, ?_, hstatus⟩
  · rw [hstatus]
    exact hfollows.scans
  · intro number hash hnow
    rw [hscanned, hnumber, Option.some.injEq, Prod.mk.injEq] at hnow
    obtain ⟨rfl, rfl⟩ := hnow
    exact ⟨hlast, rfl⟩
  · rw [nextBlock, hscanned, hnumber]

include hhonest havailable hreaches

theorem ingestBatch_does {header : Option BlockHeader} {span : ℕ}
    (htarget : target ≤ F.target finality indexingDepth)
    (hexec : Executes d render B w.db.scanStartBlock)
    (hfollows : F.Follows evidenceDigest B store target w.db)
    (hscans : store.Scanning w.db.runtimeStatus.projectionStatus)
    (hcheckpoint : checkpoint w.db = .ok header)
    (hspan : rangeStart w.db.scanStartBlock header + span ≤ target) :
    Does reader.Fails (F.Keeps evidenceDigest B store target w.db)
      (ingestBatch evidenceDigest store reader finality indexingDepth header
        (F.target finality indexingDepth) (rangeStart w.db.scanStartBlock header) span) w
      fun _ w' => F.Advances evidenceDigest B store target (F.target finality indexingDepth)
        w.db w'.db := by
  have hhead := hlinked.target_le finality indexingDepth
  have hnext : rangeStart w.db.scanStartBlock header = nextBlock w.db := by
    rw [nextBlock, checkpoint_ok hcheckpoint]
    cases header <;> rfl
  have honchain : ∀ c ∈ header, rangeStart w.db.scanStartBlock header = c.number + 1 ∧
      c.hash = (F.block c.number).hash := by
    rintro c ⟨⟩
    obtain ⟨hle, hhash⟩ := hfollows.checkpoint c.number c.hash (checkpoint_ok hcheckpoint)
    exact ⟨rfl, hhash.trans (hlinked.fits c.number (by omega)).lower_hash⟩
  obtain ⟨chain, hfolded⟩ := hfollows.folded
  have hself : F.Keeps evidenceDigest B store target w.db w.db :=
    ⟨hfollows, rfl, le_rfl, fun _ => rfl, id⟩
  rw [ingestBatch, does_bind]
  apply ((fetchRange_does havailable (by omega) hself).fetched).mono
  rintro ⟨_, events, last⟩ w₁ ⟨⟨k, hk, hheaders, hlast, hfits, h₁⟩, hfetched⟩
  dsimp only at hheaders hlast hfits hfetched
  subst hheaders
  subst hlast
  have hlastle : rangeStart w.db.scanStartBlock header + k ≤ F.head.number := by omega
  have hchecked := hlinked.checked hhonest (by omega) hfetched honchain hfits
  have hbatch := hhonest.extends hfolded.grounded hcheckpoint hchecked
  have hheaders := (hlinked.headers hlastle).2.2.2
  generalize F.headers (rangeStart w.db.scanStartBlock header) (k + 1) = headers
    at hchecked hbatch hheaders ⊢
  have hparent : ¬∃ c ∈ header, ∃ x ∈ headers.head?, x.parentHash ≠ c.hash := by
    rintro ⟨c, hc, x, hx, hne⟩
    exact hne (hchecked.parent c hc x hx)
  have hlocated : ¬∃ e ∈ sortEvents events,
      headerByNumber headers e.blockNumber ≠ some e.blockHash := by
    rintro ⟨e, he, hne⟩
    exact hne (hchecked.located e he)
  simp only
  rw [verifyHeaders, if_neg (not_not.mpr hchecked.start), if_neg hparent,
    if_neg (not_not.mpr hchecked.linked), does_bind, does_pure, verifyEvents, if_neg hlocated,
    does_bind, does_pure, hchecked.final]
  simp only
  rw [does_bind]
  apply (does_readChain (does_call (havailable.block _ hlastle) (.block _) (h₁ ▸ hself))).mono
  rintro _ w₂ ⟨rfl, h₂⟩
  have hdb : w₂.db = w.db := h₂.trans h₁
  rw [if_neg (by simp), does_bind]
  rw [← hdb] at hexec hfollows hscans hbatch
  apply (commitRange_does hrender hcollection hfault hlinked (by omega) hexec hfollows hbatch
    hchecked.final hheaders (fun e he => hfits e
      ((List.perm_insertionSort _ events).mem_iff.mp he)) (by omega)).mono
  rintro _ w₃ ⟨hafter, hstart, hnow, hstatus⟩
  rw [← hstatus] at hscans
  rw [hdb] at hstart hstatus
  have hfree : w.db.runtimeStatus.projectionStatus.Scans →
      w₃.db.runtimeStatus.projectionStatus.Scans := fun hfree => hstatus ▸ hfree
  have hkeeps : F.Keeps evidenceDigest B store target w.db w₃.db :=
    ⟨hafter, hstart, by omega, fun _ => by omega, hfree⟩
  rw [hlinked.number _ hlastle]
  split
  · rename_i hreached
    apply (publishLatest_does havailable hlinked hreaches hlastle hscans hreached hkeeps).mono
    rintro _ w₄ ⟨status, h₄, hscanning, hcurrent⟩
    rw [h₄]
    refine ⟨hkeeps.trans (hafter.keeps hscanning.scans fun h => ?_),
      fun _ => lt_of_lt_of_eq (by omega) hnow.symm, fun _ _ h => hcurrent (hfree h)⟩
    exact .inr (.inr (.inl (hcurrent h)))
  · rename_i hbefore
    refine does_pure.mpr ⟨hkeeps, fun _ => by omega, fun hbeyond heligible => ?_⟩
    exact absurd hbeyond (by omega)

theorem ingestRange_does {batchSize : ℕ} (hbatchSize : 1 ≤ batchSize)
    (hrange : rangeTarget maximumTarget (F.target finality indexingDepth) = target)
    (hexec : Executes d render B w.db.scanStartBlock)
    (hfollows : F.Follows evidenceDigest B store target w.db) :
    Does reader.Fails (F.Keeps evidenceDigest B store target w.db)
      (ingestRange evidenceDigest store reader batchSize w.db.scanStartBlock indexingDepth
        maximumTarget finality) w fun _ w' => F.Advances evidenceDigest B store target
          (F.target finality indexingDepth) w.db w'.db := by
  have hhead := hlinked.target_le finality indexingDepth
  have htarget : target ≤ F.target finality indexingDepth := hrange ▸ (rangeTarget_le _ _).1
  obtain ⟨chain, hfolded⟩ := hfollows.folded
  obtain ⟨header, hcheckpoint⟩ := hfolded.grounded.checkpoint_exists
  have hself : F.Keeps evidenceDigest B store target w.db w.db :=
    ⟨hfollows, rfl, le_rfl, fun _ => rfl, id⟩
  have hnext : rangeStart w.db.scanStartBlock header = nextBlock w.db := by
    rw [nextBlock, checkpoint_ok hcheckpoint]
    cases header <;> rfl
  have honchain : ∀ c ∈ header, c.number ≤ target ∧ c.hash = (F.block c.number).hash := by
    rintro c ⟨⟩
    obtain ⟨hle, hhash⟩ := hfollows.checkpoint c.number c.hash (checkpoint_ok hcheckpoint)
    exact ⟨hle, hhash.trans (hlinked.fits c.number (by omega)).lower_hash⟩
  have hexceeds : ¬∃ c ∈ header, target < c.number := by
    rintro ⟨c, hc, hlt⟩
    exact absurd (honchain c hc).1 (not_le.mpr hlt)
  rw [ingestRange, if_neg (by omega), does_bind, readCheckpoint, does_bind, does_get, hcheckpoint]
  simp only
  rw [does_pure, does_bind]
  apply (verifyCheckpoint_does havailable (fun c hc => ⟨(honchain c hc).1.trans
    (htarget.trans hhead), (honchain c hc).2⟩) hself).mono
  intro _ w₁ h₁
  rw [does_bind]
  apply (readTarget_does havailable hlinked hreaches _ (h₁ ▸ hself)).mono
  rintro _ w₂ ⟨rfl, h₂⟩
  have hdb : w₂.db = w.db := h₂.trans h₁
  simp only [Option.map_some, Option.getD_some]
  rw [hlinked.number _ hhead, does_bind]
  apply (observe_does hlinked (hdb ▸ hfollows.scans)).mono
  rintro _ w₃ ⟨status, h₃, hscans, hfree⟩
  rw [hdb] at h₃ hfree
  have hkeeps : F.Keeps evidenceDigest B store target w.db w₃.db := by
    rw [h₃]
    exact hfollows.keeps hscans.scans hfree
  have hscans₃ : store.Scanning w₃.db.runtimeStatus.projectionStatus := by
    rw [h₃]
    exact hscans
  have hcheckpoint₃ : checkpoint w₃.db = .ok header := by
    rw [h₃]
    exact hcheckpoint
  have hnext₃ : nextBlock w₃.db = nextBlock w.db := by
    rw [h₃]
    rfl
  unfold ingestUpTo
  simp only
  rw [hrange, if_neg hexceeds]
  split
  · rename_i hpast
    split
    · apply (publish_does hlinked hscans₃).mono
      rintro _ w₄ ⟨status', h₄, hscanning, hcurrent⟩
      rw [h₄]
      refine ⟨hkeeps.trans (hkeeps.follows.keeps hscanning.scans fun h => ?_),
        fun hlow => absurd hlow (by omega), fun _ _ h => hcurrent (hkeeps.free h)⟩
      exact .inr (.inr (.inl (hcurrent h)))
    · rename_i hbelow
      exact does_pure.mpr ⟨hkeeps, fun hlow => absurd hlow (by omega),
        fun _ heligible => absurd heligible hbelow⟩
  · rename_i hpast
    have hspan : ∀ last, rangeStart w.db.scanStartBlock header ≤ last → last ≤ target →
        Does reader.Fails (F.Keeps evidenceDigest B store target w.db)
          (ingestBatch evidenceDigest store reader finality indexingDepth header
            (F.target finality indexingDepth) (rangeStart w.db.scanStartBlock header)
            (last - rangeStart w.db.scanStartBlock header)) w₃ fun _ w' =>
            F.Advances evidenceDigest B store target (F.target finality indexingDepth)
              w.db w'.db := by
      intro last hlow hhigh
      rw [← hkeeps.start] at hexec hlow ⊢
      apply ((ingestBatch_does hrender hcollection hfault hhonest havailable hlinked hreaches
        htarget hexec hkeeps.follows hscans₃ hcheckpoint₃ (by omega)).weaken
          fun _ => hkeeps.trans).mono
      intro _ w₄ h₄
      exact ⟨hkeeps.trans h₄.toKeeps, hnext₃ ▸ h₄.next,
        fun hbeyond heligible h => h₄.current hbeyond heligible (hkeeps.free h)⟩
    by_cases hbatch : rangeStart w.db.scanStartBlock header + batchSize - 1 < target
    · rw [if_pos hbatch]
      exact hspan _ (by omega) (by omega)
    · rw [if_neg hbatch]
      exact hspan _ (by omega) le_rfl

end

end MotorCove.Indexer
