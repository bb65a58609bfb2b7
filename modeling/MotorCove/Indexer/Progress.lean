import MotorCove.Indexer.Executions
import MotorCove.Indexer.LogScope

/-!
# The next blocks of the chain commit

A store follows a chain that runs the contracts. Whatever the chain offers next
is then committed: no row of a header or an event is refused, a block known from
an abandoned fork has the content that is offered again, and the tables take
every event.
-/

set_option autoImplicit false

namespace MotorCove.Indexer
open MotorCove.Text MotorCove.Fallible
open MotorCove.Chain (Address Deployment)

/-- A header as the client returns it, with values that fit the columns. -/
structure HeaderFits (B : Blocks) (x : BlockHeader) : Prop where
  hash : hexLength x.hash 64 = true
  parentHash : lower x.parentHash = x.parentHash
  number : safeInteger x.number = true
  timestamp : safeInteger x.timestamp = true
  count : safeInteger (B.events (lower x.hash)).length = true

/-- An event as the client returns it, with values that fit the columns. -/
structure EventFits (e : OrderedEvent) : Prop where
  blockNumber : safeInteger e.blockNumber = true
  transactionIndex : safeInteger e.transactionIndex = true
  logIndex : safeInteger e.logIndex = true
  contractAddress : hexLength (lower e.contractAddress) 40 = true
  blockHash : hexLength e.blockHash 64 = true
  transactionHash : hexLength (lower e.transactionHash) 64 = true

section
variable {evidenceDigest : Evidence → String} {B : Blocks} {chain : List BlockRow}
  {db₀ db : Database} {store : SqliteProjectionStore} {events : List OrderedEvent}
  {done todo headers : List BlockHeader} {rc : List String} {x : BlockHeader}

theorem HeaderFits.lower_hash (h : HeaderFits B x) : lower x.hash = x.hash :=
  lower_of_hexLength h.hash

theorem EventFits.lower_blockHash {e : OrderedEvent} (h : EventFits e) :
    lower e.blockHash = e.blockHash := lower_of_hexLength h.blockHash

theorem EventFits.checks {e : OrderedEvent} (h : EventFits e) :
    checkAll (eventRow evidenceDigest e).checks = .ok () := by
  have hhash : hexLength (lower e.blockHash) 64 = true := h.lower_blockHash.symm ▸ h.blockHash
  rw [checkAll_ok]
  simp only [EventRow.checks, eventRow, List.forall_mem_cons, List.not_mem_nil,
    false_implies, implies_true, and_true]
  exact ⟨h.blockNumber, h.transactionIndex, h.logIndex, h.contractAddress, hhash,
    h.transactionHash⟩

/-- What the row of a header notes of the events at its number, its block has. -/
structure RowFits (evidenceDigest : Evidence → String) (B : Blocks) (scope : String)
    (x : BlockHeader) (row : BlockRow) : Prop where
  hash : row.blockHash = lower x.hash
  named : RowNamed evidenceDigest B row
  scope : row.logScopeHash = scope
  checks : checkAll row.checks = .ok ()

variable (evidenceDigest store) in
theorem Listed.rowFits (hlisted : Listed B events [x]) (hx : B.Names x) (hfits : HeaderFits B x) :
    RowFits evidenceDigest B store.logScopeHash x (blockRow evidenceDigest store x
      (sortEvents (events.filter fun e => e.blockNumber = x.number))) := by
  have hevents := hlisted x (List.mem_singleton_self x)
  have hcount : (sortEvents (events.filter fun e => e.blockNumber = x.number)).length =
      (B.events (lower x.hash)).length := by
    rw [← hevents, List.length_map]
  have hhash : hexLength (lower x.hash) 64 = true := hfits.lower_hash.symm ▸ hfits.hash
  have hdigest : observedLogDigest evidenceDigest ((sortEvents (events.filter fun e =>
      e.blockNumber = x.number)).map OrderedEvent.toEnvelope) =
        observedLogDigest evidenceDigest
          ((B.events (lower x.hash)).map OrderedEvent.toEnvelope) := by
    rw [← hevents]
    exact (observedLogDigest_lowered _).symm
  constructor
  · rfl
  · exact ⟨hx.1, hx.2, rfl, hcount, hdigest, lower_lower x.hash⟩
  · rfl
  · rw [checkAll_ok]
    simp only [BlockRow.checks, blockRow, hcount, List.forall_mem_cons, List.not_mem_nil,
      false_implies, implies_true, and_true]
    exact ⟨hfits.number, hfits.timestamp, hfits.count, hhash⟩

theorem insertBlock_succeeds {row : BlockRow} (hchecks : checkAll row.checks = .ok ())
    (hclear : ∀ b ∈ db.indexedBlocks.rows, b.isCanonical = true → b.blockNumber ≠ row.blockNumber)
    (hnew : ∀ b ∈ db.indexedBlocks.rows, b.blockHash ≠ row.blockHash) :
    ∃ db', insertBlock row db = .ok db' := by
  have hfree : ¬(row.isCanonical = true ∧ ∃ b ∈ db.indexedBlocks.rows,
      b.isCanonical = true ∧ b.blockNumber = row.blockNumber) := by
    rintro ⟨_, b, hb, hcanonical, hnumber⟩
    exact hclear b hb hcanonical hnumber
  obtain ⟨t, ht, _⟩ := Table.insert?_of_new hnew
  rw [insertBlock, hchecks, ok_bind, failIf_neg _ hfree, ok_bind, ht]
  exact ⟨_, rfl⟩

variable (rc) in
theorem commitHeader_succeeds (hnamed : ∀ b ∈ db.indexedBlocks.rows, RowNamed evidenceDigest B b)
    (hscope : ∀ b ∈ db.indexedBlocks.rows, b.logScopeHash = store.logScopeHash)
    (hx : B.Names x) (hfits : HeaderFits B x) (hlisted : Listed B events [x])
    (hfresh : ∀ b ∈ db.indexedBlocks.rows, b.isCanonical = true → b.blockNumber < x.number) :
    ∃ state, commitHeader evidenceDigest store events (db, rc) x = .ok state := by
  have hrow := hlisted.rowFits evidenceDigest store hx hfits
  unfold commitHeader
  simp only
  generalize blockRow evidenceDigest store x
    (sortEvents (events.filter fun e => e.blockNumber = x.number)) = row at hrow ⊢
  have hrownumber : row.blockNumber = x.number := by
    rw [hrow.named.number, hrow.hash, hx.1]
  split
  · rename_i existing hfind
    obtain ⟨hstored, hkey⟩ := Table.find?_some.mp hfind
    have hhash : existing.blockHash = row.blockHash :=
      hkey.trans (hfits.lower_hash.symm.trans hrow.hash.symm)
    have hexisting := hnamed existing hstored
    have hsame : ¬(existing.observedLogCount ≠ row.observedLogCount ∨
        existing.observedLogDigest ≠ row.observedLogDigest ∨
        existing.logScopeHash ≠ store.logScopeHash ∨ existing.parentHash ≠ x.parentHash) := by
      rw [hexisting.count, hexisting.digest, hexisting.parentHash, hhash, hrow.named.count,
        hrow.named.digest, hscope existing hstored, hrow.hash, ← hx.2, hfits.parentHash]
      simp
    rw [failIf_neg _ hsame, ok_bind]
    split
    · exact ⟨_, rfl⟩
    · -- the row of an abandoned fork
      have hclear : ¬∃ b ∈ db.indexedBlocks.rows, b.blockHash = lower x.hash ∧
          b.isCanonical = false ∧ ∃ c ∈ db.indexedBlocks.rows, c.isCanonical = true ∧
            c.blockNumber = b.blockNumber := by
        rintro ⟨b, hb, hbhash, _, c, hc, hcanonical, hnumber⟩
        have hlt := hfresh c hc hcanonical
        rw [hnumber, (hnamed b hb).number, hbhash, ← hx.1] at hlt
        exact absurd hlt (lt_irrefl _)
      rw [recanonicalize, failIf_neg _ hclear]
      exact ⟨_, rfl⟩
  · rename_i hfind
    have hnew := Table.find?_none.mp hfind
    obtain ⟨db', hinsert⟩ := insertBlock_succeeds hrow.checks
      (fun b hb hc => by
        have hlt := hfresh b hb hc
        omega)
      fun b hb hkey => hnew b hb (hkey.trans (hrow.hash.trans hfits.lower_hash))
    rw [hinsert]
    exact ⟨_, rfl⟩

theorem commitHeader_scope {state state' : Database × List String}
    (hscope : ∀ b ∈ state.1.indexedBlocks.rows, b.logScopeHash = store.logScopeHash)
    (h : commitHeader evidenceDigest store events state x = .ok state') :
    ∀ b ∈ state'.1.indexedBlocks.rows, b.logScopeHash = store.logScopeHash := by
  intro b hb
  rcases commitHeader_grown (P := fun b => b.logScopeHash = store.logScopeHash)
    (fun _ => rfl) h b hb with ⟨c, hc, hsame⟩ | hnew
  · exact (unflagged_scope hsame).trans (hscope c hc)
  · exact hnew

theorem commitHeaders_succeed (h : HeadersDone evidenceDigest B db₀ chain done db rc)
    (hscope : ∀ b ∈ db.indexedBlocks.rows, b.logScopeHash = store.logScopeHash)
    (hnames : ∀ y ∈ done ++ todo, B.Names y) (hfits : ∀ y ∈ todo, HeaderFits B y)
    (hbelow : ∀ b ∈ chain, ∀ x ∈ todo, b.blockNumber < x.number)
    (hsorted : (done ++ todo).Pairwise fun a b => a.number < b.number)
    (hlisted : Listed B events todo) :
    ∃ state, todo.foldlM (commitHeader evidenceDigest store events) (db, rc) = .ok state := by
  induction todo generalizing done db rc with
  | nil => exact ⟨_, rfl⟩
  | cons x rest ih =>
    have hdone : ∀ y ∈ done, y.number < x.number := fun y hy =>
      (List.pairwise_append.mp hsorted).2.2 y hy x List.mem_cons_self
    have hx : B.Names x := hnames x (by simp)
    have hnamesDone : ∀ y ∈ done, B.Names y := fun y hy => hnames y (List.mem_append_left _ hy)
    have hbelowx : ∀ b ∈ chain, b.blockNumber < x.number :=
      fun b hb => hbelow b hb x List.mem_cons_self
    have hlistedx : Listed B events [x] :=
      fun y hy => hlisted y (List.mem_singleton.mp hy ▸ List.mem_cons_self)
    obtain ⟨⟨db₁, rc₁⟩, hstep⟩ := commitHeader_succeeds rc h.named hscope hx
      (hfits x List.mem_cons_self) hlistedx fun b hb hc => h.fresh hnamesDone hbelowx hdone hb hc
    have hnext := headersDone_step h hx hnamesDone hbelowx hdone hlistedx hstep
    rw [List.append_cons] at hnames hsorted
    rw [List.foldlM_cons, hstep, ok_bind]
    exact ih hnext (commitHeader_scope hscope hstep) hnames
      (fun y hy => hfits y (List.mem_cons_of_mem _ hy))
      (fun b hb y hy => hbelow b hb y (List.mem_cons_of_mem _ hy)) hsorted
      (fun y hy => hlisted y (List.mem_cons_of_mem _ hy))

theorem recordEvent_succeeds {e : OrderedEvent} (again : Bool) {h : String} {p : Projections}
    (hnamed : ∀ r ∈ db.chainEvents.rows, ∃ k, r ∈ B.rows evidenceDigest k)
    (he : lowered e ∈ B.events h) (hfits : EventFits e)
    (happly : applyEvent store.collectionAddress e db.projections = .ok p) :
    ∃ db', recordEvent evidenceDigest store e again db = .ok db' := by
  unfold recordEvent
  simp only
  split
  · rename_i existing hfind
    obtain ⟨hstored, hkey⟩ := Table.find?_some.mp hfind
    obtain ⟨k, hk⟩ := hnamed existing hstored
    have hrow : existing = eventRow evidenceDigest e :=
      eventRow_of_key he hk (hkey.trans (by rw [hfits.lower_blockHash]))
    rw [hrow, failIf_neg _ (by simp), ok_bind]
    split
    · exact ⟨_, applyToTables_ok.mpr ⟨p, happly, rfl⟩⟩
    · exact ⟨_, rfl⟩
  · rename_i hfind
    have hnew := Table.find?_none.mp hfind
    obtain ⟨t, ht, _⟩ := Table.insert?_of_new (t := db.chainEvents)
      (a := eventRow evidenceDigest e) fun r hr hkey => hnew r hr (hkey.trans (by
        rw [key_eventRow, hfits.lower_blockHash]))
    have hinsert : insertEvent (eventRow evidenceDigest e) db =
        .ok { db with chainEvents := t } := by
      rw [insertEvent, hfits.checks, ok_bind, ht]
    rw [hinsert, ok_bind]
    exact ⟨_, applyToTables_ok.mpr ⟨p, happly, rfl⟩⟩

/-- Events that the tables take in turn are recorded, when each is new or its
block is canonical again. -/
theorem recordEvents_succeed {p : Projections}
    (hnamed : ∀ r ∈ db.chainEvents.rows, ∃ k, r ∈ B.rows evidenceDigest k)
    (hevents : ∀ e ∈ events, ∃ h, lowered e ∈ B.events h)
    (hfits : ∀ e ∈ events, EventFits e)
    (hdistinct : (events.map (eventRow evidenceDigest)).Nodup)
    (happlied : ∀ e ∈ events, rc.contains (lower e.blockHash) = true ∨
      eventRow evidenceDigest e ∉ db.chainEvents.rows)
    (happly : applyEvents store.collectionAddress events db.projections = .ok p) :
    ∃ db', recordEvents evidenceDigest store rc events db = .ok db' := by
  induction events generalizing db with
  | nil => exact ⟨_, rfl⟩
  | cons e rest ih =>
    rw [applyEvents, List.foldlM_cons] at happly
    obtain ⟨p₁, hp₁, hrest⟩ := bind_ok.mp happly
    obtain ⟨h, he⟩ := hevents e List.mem_cons_self
    obtain ⟨db₁, hstep⟩ := recordEvent_succeeds (rc.contains (lower e.blockHash)) hnamed
      he (hfits e List.mem_cons_self) hp₁
    obtain ⟨t, p', hdb, ht, happlies⟩ := recordEvent_rows hnamed he hstep
    have hyes : applies (rc.contains (lower e.blockHash)) e db = true := by
      rw [happlies]
      exact decide_eq_true (happlied e List.mem_cons_self)
    have hp₁' : db₁.projections = p₁ := by
      rcases recordEvent_applied hstep with ⟨_, hp⟩ | ⟨hno, _⟩
      · exact Except.ok.inj (hp.symm.trans hp₁)
      · rw [hyes] at hno
        cases hno
    obtain ⟨hfresh, hdistinct⟩ := List.nodup_cons.mp hdistinct
    rw [recordEvents, List.foldlM_cons, hstep, ok_bind]
    have hrows : ∀ r, r ∈ db₁.chainEvents.rows ↔
        r ∈ db.chainEvents.rows ∨ r = eventRow evidenceDigest e := by
      rw [hdb]
      exact ht
    apply ih
    · intro r hr
      rcases (hrows r).mp hr with hr | rfl
      · exact hnamed r hr
      · exact ⟨h, Blocks.mem_rows.mpr ⟨_, he, eventRow_lowered e⟩⟩
    · exact fun e' he' => hevents e' (List.mem_cons_of_mem _ he')
    · exact fun e' he' => hfits e' (List.mem_cons_of_mem _ he')
    · exact hdistinct
    · intro e' he'
      rcases happlied e' (List.mem_cons_of_mem _ he') with hrc | hnew
      · exact .inl hrc
      · right
        intro hmem
        rcases (hrows _).mp hmem with hmem | heq
        · exact hnew hmem
        · exact hfresh (heq ▸ List.mem_map_of_mem he')
    · rw [hp₁']
      exact hrest

theorem Extends.hashes (hspine : Grounded evidenceDigest B chain db)
    (hbatch : Extends B db headers events) :
    (chain.map BlockRow.blockHash ++ headers.map (lower ·.hash)).IsChain
        (fun a b => B.parentHash b = a) ∧
      (chain.map BlockRow.blockHash ++ headers.map (lower ·.hash)).map B.number =
        List.range' db.scanStartBlock
          (chain.map BlockRow.blockHash ++ headers.map (lower ·.hash)).length := by
  obtain ⟨hlinked, hnumbers⟩ := hspine.hashes
  have hheaders : (headers.map (lower ·.hash)).map B.number =
      headers.map BlockHeader.number := by
    rw [List.map_map]
    apply List.map_congr_left
    intro x hx
    exact (hbatch.names x hx).1.symm
  constructor
  · have hparents : (headers.map (lower ·.hash)).IsChain fun a b => B.parentHash b = a := by
      rw [List.isChain_map]
      apply hbatch.linked.imp_of_mem_imp
      intro a b _ hb hl
      rw [← (hbatch.names b hb).2, hl]
    apply List.isChain_append.mpr ⟨hlinked, hparents, fun a ha b hb => ?_⟩
    rw [Option.mem_def, List.getLast?_map, Option.map_eq_some_iff] at ha
    rw [Option.mem_def, List.head?_map, Option.map_eq_some_iff] at hb
    obtain ⟨last, hlast, rfl⟩ := ha
    obtain ⟨x, hx, rfl⟩ := hb
    have hcheckpoint : db.checkpoint.lastScanned = some (last.blockNumber, last.blockHash) := by
      rw [hspine.checkpoint, hlast]
      rfl
    rw [← (hbatch.names x (List.mem_of_mem_head? hx)).2]
    exact hbatch.parent _ _ hcheckpoint x hx
  · rw [List.map_append, hnumbers, hheaders, hbatch.numbers, hspine.toSpine.nextBlock_eq,
      List.range'_append_1, List.length_append, List.length_map, List.length_map]

variable {d : Deployment} {render : Address → String} {last : BlockHeader}

theorem Folded.apply_next (hfolded : Folded evidenceDigest B store.collectionAddress chain db)
    (hrender : ∀ a, lower (render a) = address a)
    (hcollection : lower store.collectionAddress = address d.nft)
    (hexec : Executes d render B db.scanStartBlock) (hbatch : Extends B db headers events) :
    ∃ p, applyEvents store.collectionAddress events db.projections = .ok p := by
  obtain ⟨hlinked, hnumbers⟩ := hbatch.hashes hfolded.grounded
  obtain ⟨w, hruns⟩ := hexec _ hlinked hnumbers
  obtain ⟨_, p, hp, _⟩ := hruns.shown hrender hcollection
  have hnext : (headers.map (lower ·.hash)).flatMap B.events = events.map lowered := by
    rw [List.flatMap_map, hbatch.events]
    rfl
  rw [List.flatMap_append, ← Blocks.chainEvents_hashes, hnext, applyEvents, foldlM_append_ok] at hp
  obtain ⟨p₁, hp₁, hnew⟩ := hp
  obtain rfl := Except.ok.inj (hp₁.symm.trans hfolded.projections)
  exact ⟨p, applyEvents_lowered.mp hnew⟩

/-- A barrier refuses a commit unless the store is a reindex's. -/
def SqliteProjectionStore.Admits (store : SqliteProjectionStore) (status : RuntimeStatus) : Prop :=
  status.projectionStatus = .recoveryRequired → store.allowReindexRecovery = true

theorem commitTransaction_succeeds
    (hfolded : Folded evidenceDigest B store.collectionAddress chain db)
    (hscope : ∀ b ∈ db.indexedBlocks.rows, b.logScopeHash = store.logScopeHash)
    (hready : store.Admits db.runtimeStatus)
    (hrender : ∀ a, lower (render a) = address a)
    (hcollection : lower store.collectionAddress = address d.nft)
    (hexec : Executes d render B db.scanStartBlock) (hbatch : Extends B db headers events)
    (hlast : headers.getLast? = some last) (hheaders : ∀ x ∈ headers, HeaderFits B x)
    (hevents : ∀ e ∈ events, EventFits e)
    (hfault : ∀ point, store.commitFaultHook point = false) :
    ∃ db', commitTransaction evidenceDigest store headers events last db = .ok db' := by
  have hgrounded := hfolded.grounded
  have hbelow : ∀ b ∈ chain, ∀ x ∈ headers, b.blockNumber < x.number := by
    intro b hb x hx
    have hn : x.number ∈ headers.map BlockHeader.number := List.mem_map_of_mem hx
    rw [hbatch.numbers, List.mem_range'_1, hgrounded.toSpine.nextBlock_eq] at hn
    have := hgrounded.toSpine.number_lt hb
    omega
  have hstart := headersDone_start hgrounded.named hgrounded.canonical
  obtain ⟨⟨db₁, rc⟩, hrun⟩ := commitHeaders_succeed hstart hscope hbatch.names hheaders hbelow
    hbatch.sorted hbatch.listed
  have hdone := headersDone_run hstart hbatch.names hbelow hbatch.sorted hbatch.listed hrun
  rw [List.nil_append] at hdone
  obtain ⟨t, rfl⟩ := hdone.frame
  have hrows : ∀ r ∈ db.chainEvents.rows, ∃ k, r ∈ B.rows evidenceDigest k := by
    intro r hr
    obtain ⟨b, _, hrow⟩ := hgrounded.events r hr
    exact ⟨_, hrow⟩
  have hdistinct : (events.map (eventRow evidenceDigest)).Nodup := by
    rw [hbatch.rows]
    exact Blocks.nodup_batchRows hbatch.names hbatch.sorted
  have happlied : ∀ e ∈ events, rc.contains (lower e.blockHash) = true ∨
      eventRow evidenceDigest e ∉ db.chainEvents.rows := by
    intro e he
    obtain ⟨x, hx, hex⟩ := hbatch.located he
    have hhash : lower x.hash = lower e.blockHash := (B.located _ _ hex).2.1.symm
    by_cases hstored : eventRow evidenceDigest e ∈ db.chainEvents.rows
    · -- an event row is there only with the row of its block
      obtain ⟨b, hb, hrow⟩ := hgrounded.events _ hstored
      have hknown : b.blockHash = lower e.blockHash := (Blocks.rows_hash hrow).symm
      left
      rw [List.contains_iff_mem, hdone.again]
      exact ⟨⟨x, hx, hhash⟩, b, hb, hknown⟩
    · exact .inr hstored
  obtain ⟨p, hp⟩ := hfolded.apply_next hrender hcollection hexec hbatch
  have hlocated : ∀ e ∈ events, ∃ h, lowered e ∈ B.events h := by
    intro e he
    obtain ⟨x, _, hx⟩ := hbatch.located he
    exact ⟨_, hx⟩
  have hrecorded : ∃ db₂, recordEvents evidenceDigest store rc events
      { db with indexedBlocks := t } = .ok db₂ :=
    recordEvents_succeed hrows hlocated hevents hdistinct happlied hp
  obtain ⟨db₂, hrecorded⟩ := hrecorded
  have hlastfits := hheaders last (List.mem_of_getLast? hlast)
  have hcheckpoint : checkAll [("checkpoint_block_check", safeInteger last.number),
      ("checkpoint_hash_check", hexLength (lower last.hash) 64)] = .ok () := by
    rw [checkAll_ok]
    simp only [List.forall_mem_cons, List.not_mem_nil, false_implies, implies_true, and_true]
    exact ⟨hlastfits.number, hlastfits.lower_hash.symm ▸ hlastfits.hash⟩
  exact ⟨_, commitTransaction_iff.mpr ⟨fun hstop => Bool.false_ne_true
    (hstop.2.symm.trans (hready hstop.1)),
    ⟨_, db₂, hrun, hrecorded, setCheckpoint_ok_iff.mpr ⟨hcheckpoint, rfl⟩⟩, hfault _, hfault _⟩⟩

theorem commit_succeeds
    (hfolded : Folded evidenceDigest B store.collectionAddress chain db)
    (hscope : ∀ b ∈ db.indexedBlocks.rows, b.logScopeHash = store.logScopeHash)
    (hready : store.Admits db.runtimeStatus)
    (hrender : ∀ a, lower (render a) = address a)
    (hcollection : lower store.collectionAddress = address d.nft)
    (hexec : Executes d render B db.scanStartBlock) (hbatch : Extends B db headers events)
    (hlast : headers.getLast? = some last) (hheaders : ∀ x ∈ headers, HeaderFits B x)
    (hevents : ∀ e ∈ events, EventFits e)
    (hfault : ∀ point, store.commitFaultHook point = false) :
    ∃ db', commit evidenceDigest store headers events last db = (.ok (), db') ∧
      db'.checkpoint.lastScanned = some (last.number, lower last.hash) ∧
      db'.runtimeStatus = db.runtimeStatus := by
  obtain ⟨db', htransaction⟩ := commitTransaction_succeeds hfolded hscope hready hrender
    hcollection hexec hbatch hlast hheaders hevents hfault
  have hcommit : commit evidenceDigest store headers events last db = (.ok (), db') :=
    commit_ok_iff.mpr ⟨htransaction, hfault _, hfault _⟩
  obtain ⟨_, ⟨_, _, _, _, hcheckpoint⟩, _⟩ := commitTransaction_iff.mp htransaction
  obtain ⟨_, hdb'⟩ := setCheckpoint_ok_iff.mp hcheckpoint
  refine ⟨db', hcommit, ?_, ?_⟩
  · rw [hdb']
  · rw [commitTransaction_frame htransaction]

theorem Extends.chainEvents (hbatch : Extends B db headers events) {added : List BlockRow}
    (hadded : added.map BlockRow.blockHash = headers.map (lower ·.hash)) :
    B.chainEvents added = events.map lowered := by
  rw [Blocks.chainEvents_hashes, hadded, List.flatMap_map, hbatch.events]
  rfl

theorem applyEvents_append {collectionAddress : String} {added : List BlockRow}
    {p p₁ : Projections} (h : applyEvents collectionAddress (B.chainEvents chain) noProjections = .ok p)
    (hnext : B.chainEvents added = events.map lowered)
    (happlied : applyEvents collectionAddress events p = .ok p₁) :
    applyEvents collectionAddress (B.chainEvents (chain ++ added)) noProjections = .ok p₁ := by
  rw [Blocks.chainEvents_append, hnext]
  exact (foldlM_append_ok _ _ _ _ _).mpr ⟨p, h, applyEvents_lowered.mpr happlied⟩

theorem folded_commit {db' : Database}
    (hfolded : Folded evidenceDigest B store.collectionAddress chain db)
    (hbatch : Extends B db headers events) (hlast : headers.getLast? = some last)
    (hcommit : commit evidenceDigest store headers events last db = (.ok (), db')) :
    ∃ added : List BlockRow,
      Folded evidenceDigest B store.collectionAddress (chain ++ added) db' := by
  obtain ⟨_, added, hadded, hgrounded, happlied⟩ :=
    grounded_commit hfolded.grounded hbatch hlast (commit_ok hcommit)
  exact ⟨added, hgrounded,
    applyEvents_append hfolded.projections (hbatch.chainEvents hadded) happlied⟩

theorem committed_projected {db' : Database}
    (hprojected : Projected evidenceDigest B store.collectionAddress chain db)
    (hbatch : Extends B db headers events) (hlast : headers.getLast? = some last)
    (hcommit : commit evidenceDigest store headers events last db = (.ok (), db')) :
    ∃ added : List BlockRow, added.map BlockRow.blockHash = headers.map (lower ·.hash) ∧
      Projected evidenceDigest B store.collectionAddress (chain ++ added) db' := by
  obtain ⟨added, hadded, hcovered, happlied⟩ :=
    covered_commit hprojected.covered hbatch hlast (commit_ok hcommit)
  exact ⟨added, hadded, hcovered,
    applyEvents_append hprojected.projections (hbatch.chainEvents hadded) happlied⟩

end

/-- Whatever the chain offers next, after any history of commits, rewinds and
reindexes, is committed in one piece, also where an abandoned fork left rows of
the same blocks. -/
theorem next_blocks_commit {evidenceDigest : Evidence → String} {B : Blocks} {db : Database}
    {store : SqliteProjectionStore} {headers : List BlockHeader} {events : List OrderedEvent}
    {last : BlockHeader} {d : Deployment} {render : Address → String}
    (hrender : ∀ a, lower (render a) = address a)
    (hcollection : lower store.collectionAddress = address d.nft)
    (hexec : Executes d render B db.scanStartBlock)
    (h : InScope evidenceDigest B store.collectionAddress store.logScopeHash db)
    (status : RuntimeStatus) (hready : status.projectionStatus ≠ .recoveryRequired)
    (hbatch : Extends B db headers events) (hlast : headers.getLast? = some last)
    (hheaders : ∀ x ∈ headers, HeaderFits B x) (hevents : ∀ e ∈ events, EventFits e)
    (hfault : ∀ point, store.commitFaultHook point = false) :
    ∃ chain added db', commit evidenceDigest store headers events last (db.setStatus status) =
        (.ok (), db') ∧
      Spine chain db ∧ added.map BlockRow.blockHash = headers.map (lower ·.hash) ∧
      Projected evidenceDigest B store.collectionAddress (chain ++ added) db' ∧
      db'.checkpoint.lastScanned = some (last.number, lower last.hash) := by
  obtain ⟨chain, hprojected⟩ := reachable_projected h.reachable
  have hstarted := hprojected.setStatus status
  have hnext : Extends B (db.setStatus status) headers events :=
    ⟨hbatch.1, hbatch.2, hbatch.3, hbatch.4, hbatch.5⟩
  obtain ⟨db', hcommit, hlast', _⟩ := commit_succeeds hstarted.folded h.scoped.rows
    (fun hbarred => absurd hbarred hready) hrender hcollection hexec hnext hlast hheaders hevents
    hfault
  obtain ⟨added, hadded, hafter⟩ := committed_projected hstarted hnext hlast hcommit
  exact ⟨chain, added, db', hcommit, hprojected.covered.toSpine, hadded, hafter, hlast'⟩

/-! A listing and its funding in one block. -/

theorem fundedHeader_fits : HeaderFits fundedBlocks fundedHeader where
  hash := hexLength_hex 64 1
  parentHash := lower_hex 64 0
  number := by decide
  timestamp := by decide
  count := by
    rw [fundedBlocks_events]
    decide

theorem fundedEvents_fit : ∀ e ∈ fundedEvents, EventFits e := by
  intro e he
  rw [fundedEvents_eq] at he
  obtain ⟨i, log, _, rfl⟩ := mem_journal he
  have haddress : lower (lower (address (emitter Chain.localDeployment log))) =
      address (emitter Chain.localDeployment log) := by
    rw [lower_lower, lower_address]
  constructor
  · exact safeInteger_iff.mpr (blockPlace i).blockNumber_safe
  · show safeInteger 0 = true
    decide
  · exact safeInteger_iff.mpr (blockPlace i).logIndex_safe
  · show hexLength (lower (lower (address (emitter Chain.localDeployment log)))) 40 = true
    rw [haddress]
    exact hexLength_address _
  · show hexLength (lower (hex 64 1)) 64 = true
    rw [lower_hex]
    exact hexLength_hex 64 1
  · show hexLength (lower (lower (hex 64 2))) 64 = true
    rw [lower_lower, lower_hex]
    exact hexLength_hex 64 2

theorem fundedHeaders_fit : ∀ x ∈ [fundedHeader], HeaderFits fundedBlocks x := by
  intro x hx
  rw [List.mem_singleton.mp hx]
  exact fundedHeader_fits

theorem next_blocks_commit_funded : ∃ chain added db',
    commit mintDigest fundedStore [fundedHeader] fundedEvents fundedHeader
        ((registered 0 "a" (hex 64 9)).setStatus ⟨.current, none, none, none⟩) = (.ok (), db') ∧
      Spine chain (registered 0 "a" (hex 64 9)) ∧
      added.map BlockRow.blockHash = [fundedHeader].map (lower ·.hash) ∧
      Projected mintDigest fundedBlocks fundedStore.collectionAddress (chain ++ added) db' ∧
      db'.checkpoint.lastScanned = some (fundedHeader.number, lower fundedHeader.hash) := by
  have hscope : InScope mintDigest fundedBlocks fundedStore.collectionAddress
      fundedStore.logScopeHash (registered 0 "a" (hex 64 9)) := .registered 0 "a" (hex 64 9)
  have hcollection : lower fundedStore.collectionAddress = address Chain.localDeployment.nft :=
    lower_address 2
  have hready : (⟨.current, none, none, none⟩ : RuntimeStatus).projectionStatus ≠
      .recoveryRequired := by decide
  have hlast : [fundedHeader].getLast? = some fundedHeader := rfl
  have hfault : ∀ point, fundedStore.commitFaultHook point = false := fun _ => rfl
  exact next_blocks_commit lower_address hcollection fundedBlocks_executes hscope _ hready
    (fundedBatch_extends "a" (hex 64 9)) hlast fundedHeaders_fit fundedEvents_fit hfault

theorem fundedBatch_commits : ∃ row : BlockRow, row.blockHash = hex 64 1 ∧
    Projected mintDigest fundedBlocks fundedStore.collectionAddress [row]
      (commit mintDigest fundedStore [fundedHeader] fundedEvents fundedHeader
        (registered 0 "a" (hex 64 9))).2 := by
  have hcollection : lower fundedStore.collectionAddress = address Chain.localDeployment.nft :=
    lower_address 2
  have hempty : Projected mintDigest fundedBlocks fundedStore.collectionAddress []
      (registered 0 "a" (hex 64 9)) := ⟨covered_registered _ _ _, rfl⟩
  have hlast : [fundedHeader].getLast? = some fundedHeader := rfl
  have hready : fundedStore.Admits (registered 0 "a" (hex 64 9)).runtimeStatus := nofun
  have hbatch := fundedBatch_extends "a" (hex 64 9)
  obtain ⟨db', hcommit, _⟩ := commit_succeeds hempty.folded (fun b hb => absurd hb List.not_mem_nil)
    hready lower_address hcollection fundedBlocks_executes hbatch hlast fundedHeaders_fit
    fundedEvents_fit fun _ => rfl
  obtain ⟨added, hadded, hprojected⟩ := committed_projected hempty hbatch hlast hcommit
  rw [hcommit]
  cases added with
  | nil => cases hadded
  | cons row rest =>
    have hrest : rest = [] := List.map_eq_nil_iff.mp (List.cons.inj hadded).2
    rw [hrest] at hprojected
    exact ⟨row, (List.cons.inj hadded).1.trans (lower_hex 64 1), hprojected⟩

def fundedDatabase : {db : Database //
    InScope mintDigest fundedBlocks fundedStore.collectionAddress fundedStore.logScopeHash db ∧
      db.scanStartBlock = 0 ∧ ∃ row : BlockRow, row.blockHash = hex 64 1 ∧
        Projected mintDigest fundedBlocks fundedStore.collectionAddress [row] db} where
  val := (commit mintDigest fundedStore [fundedHeader] fundedEvents fundedHeader
    (registered 0 "a" (hex 64 9))).2
  property := by
    refine ⟨.commit (.registered 0 "a" (hex 64 9)) rfl (fundedBatch_extends "a" (hex 64 9)) rfl,
      ?_, fundedBatch_commits⟩
    rw [(commit_kept _ _ _ _ _).1]
    rfl

end MotorCove.Indexer
