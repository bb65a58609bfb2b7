import MotorCove.Indexer.Coverage

/-!
# Commits extend the chain

What a successful commit does to a covered store: the headers of the batch
become the next rows of the chain, those known from an abandoned fork among
them, and the events that are applied are the ones the tables do not show yet.
-/

set_option autoImplicit false

namespace MotorCove.Indexer
open MotorCove.Text MotorCove.Fallible

section
variable {evidenceDigest : Evidence → String} {B : Blocks} {chain : List BlockRow} {db : Database}

/-- Headers whose events in the batch are the events their hashes name. -/
def Listed (B : Blocks) (events : List OrderedEvent) (headers : List BlockHeader) : Prop :=
  ∀ x ∈ headers, (sortEvents (events.filter fun e => e.blockNumber = x.number)).map lowered =
    B.events (lower x.hash)

theorem observedLogDigest_lowered (events : List OrderedEvent) :
    observedLogDigest evidenceDigest ((events.map lowered).map OrderedEvent.toEnvelope) =
      observedLogDigest evidenceDigest (events.map OrderedEvent.toEnvelope) := by
  have henv : (eventEnvelope ∘ OrderedEvent.toEnvelope) ∘ lowered =
      eventEnvelope ∘ OrderedEvent.toEnvelope :=
    funext fun e => eventEnvelope_eventEnvelope e.toEnvelope
  rw [observedLogDigest, observedLogDigest, List.map_map, List.map_map, henv, List.map_map]

/-- After some headers of a commit: each has a canonical row, in their order
after the chain; the rows known before are still there; and the blocks marked
as canonical again are the headers whose rows were there before. -/
structure HeadersDone (evidenceDigest : Evidence → String) (B : Blocks) (db₀ : Database)
    (chain : List BlockRow) (done : List BlockHeader) (db : Database) (rc : List String) :
    Prop where
  frame : ∃ t, db = { db₀ with indexedBlocks := t }
  named : ∀ b ∈ db.indexedBlocks.rows, RowNamed evidenceDigest B b
  known : ∀ h, (∃ b ∈ db.indexedBlocks.rows, b.blockHash = h) ↔
    (∃ b ∈ db₀.indexedBlocks.rows, b.blockHash = h) ∨ ∃ x ∈ done, lower x.hash = h
  again : ∀ h, h ∈ rc ↔
    (∃ x ∈ done, lower x.hash = h) ∧ ∃ b ∈ db₀.indexedBlocks.rows, b.blockHash = h
  canonical : ∃ added : List BlockRow, added.map BlockRow.blockHash = done.map (lower ·.hash) ∧
    ∀ b, b ∈ chain ++ added ↔ b ∈ db.indexedBlocks.rows ∧ b.isCanonical = true

theorem HeadersDone.fresh {db₀ : Database} {done : List BlockHeader} {rc : List String}
    (h : HeadersDone evidenceDigest B db₀ chain done db rc) {x : BlockHeader}
    (hnames : ∀ y ∈ done, B.Names y) (hbelow : ∀ b ∈ chain, b.blockNumber < x.number)
    (hdone : ∀ y ∈ done, y.number < x.number) {b : BlockRow} (hb : b ∈ db.indexedBlocks.rows)
    (hc : b.isCanonical = true) : b.blockNumber < x.number := by
  obtain ⟨added, hadded, hcanonical⟩ := h.canonical
  rcases List.mem_append.mp ((hcanonical b).mpr ⟨hb, hc⟩) with hmem | hmem
  · exact hbelow b hmem
  · have hhash : b.blockHash ∈ done.map (lower ·.hash) := hadded ▸ List.mem_map_of_mem hmem
    obtain ⟨y, hy, he⟩ := List.mem_map.mp hhash
    have hnumber := (h.named b hb).number
    rw [← he, ← (hnames y hy).1] at hnumber
    have := hdone y hy
    omega

theorem exists_append_hash {done : List BlockHeader} {x : BlockHeader} {k : String} :
    (∃ y ∈ done ++ [x], lower y.hash = k) ↔ (∃ y ∈ done, lower y.hash = k) ∨ lower x.hash = k := by
  simp only [List.mem_append, List.mem_singleton, or_and_right, exists_or, exists_eq_left]

/-- The row of the next header takes the place of one of its hash, or is new. -/
theorem HeadersDone.put {db₀ : Database} {done : List BlockHeader} {rc rc' : List String}
    {x : BlockHeader} {t : Table BlockRow BlockRow.blockHash} {row : BlockRow}
    (h : HeadersDone evidenceDigest B db₀ chain done db rc)
    (hrow : ∀ c, c ∈ t.rows ↔
      (c ∈ db.indexedBlocks.rows ∧ c.blockHash ≠ lower x.hash) ∨ c = row)
    (hhash : row.blockHash = lower x.hash) (hnamed : RowNamed evidenceDigest B row)
    (hcanonical : row.isCanonical = true)
    (habandoned : ∀ c ∈ db.indexedBlocks.rows, c.blockHash = lower x.hash → c.isCanonical = false)
    (hagain : ∀ k, k ∈ rc' ↔ (∃ y ∈ done ++ [x], lower y.hash = k) ∧
      ∃ b ∈ db₀.indexedBlocks.rows, b.blockHash = k) :
    HeadersDone evidenceDigest B db₀ chain (done ++ [x]) { db with indexedBlocks := t } rc' := by
  obtain ⟨t₀, hframe⟩ := h.frame
  obtain ⟨added, hadded, hchain⟩ := h.canonical
  refine ⟨⟨t, by rw [hframe]⟩, ?_, fun k => ?_, hagain, added ++ [row], ?_, fun c => ?_⟩
  · intro c hc
    rcases (hrow c).mp hc with ⟨hmem, _⟩ | rfl
    · exact h.named c hmem
    · exact hnamed
  · have hhashes : (∃ c ∈ t.rows, c.blockHash = k) ↔
        (∃ c ∈ db.indexedBlocks.rows, c.blockHash = k) ∨ lower x.hash = k := by
      constructor
      · rintro ⟨c, hc, rfl⟩
        rcases (hrow c).mp hc with ⟨hmem, _⟩ | rfl
        · exact .inl ⟨c, hmem, rfl⟩
        · exact .inr hhash.symm
      · rintro hk
        by_cases hsame : lower x.hash = k
        · exact ⟨row, (hrow row).mpr (.inr rfl), hhash.trans hsame⟩
        · obtain ⟨c, hmem, rfl⟩ := hk.resolve_right hsame
          exact ⟨c, (hrow c).mpr (.inl ⟨hmem, Ne.symm hsame⟩), rfl⟩
    rw [hhashes, h.known, exists_append_hash, or_assoc]
  · rw [List.map_append, List.map_append, hadded, List.map_singleton, List.map_singleton, hhash]
  · rw [← List.append_assoc, List.mem_append, hchain, List.mem_singleton]
    change _ ↔ c ∈ t.rows ∧ _
    rw [hrow]
    constructor
    · rintro (⟨hmem, hc⟩ | rfl)
      · refine ⟨.inl ⟨hmem, fun hsame => ?_⟩, hc⟩
        rw [habandoned c hmem hsame] at hc
        cases hc
      · exact ⟨.inr rfl, hcanonical⟩
    · rintro ⟨⟨hmem, _⟩ | rfl, hc⟩
      · exact .inl ⟨hmem, hc⟩
      · exact .inr rfl

/-- A block that comes back from an abandoned fork is canonical again. -/
theorem HeadersDone.recanonicalized {db₀ db' : Database} {done : List BlockHeader}
    {rc : List String} {x : BlockHeader} {b : BlockRow}
    (h : HeadersDone evidenceDigest B db₀ chain done db rc)
    (hnew : ∀ y ∈ done, lower y.hash ≠ lower x.hash) (hb : b ∈ db.indexedBlocks.rows)
    (hlow : b.blockHash = lower x.hash) (hc : b.isCanonical = false)
    (hr : recanonicalize (lower x.hash) db = .ok db') :
    HeadersDone evidenceDigest B db₀ chain (done ++ [x]) db' (lower x.hash :: rc) := by
  obtain ⟨t, rfl, ht⟩ := recanonicalize_ok hr
  have hold : ∃ c ∈ db₀.indexedBlocks.rows, c.blockHash = lower x.hash := by
    rcases (h.known (lower x.hash)).mp ⟨b, hb, hlow⟩ with hk | ⟨y, hy, hk⟩
    · exact hk
    · exact absurd hk (hnew y hy)
  have honly : ∀ c ∈ db.indexedBlocks.rows, c.blockHash = lower x.hash → c = b := fun c hmem hsame =>
    Table.eq_of_key hmem hb (hsame.trans hlow.symm)
  have hrow : ∀ c, c ∈ t.rows ↔ (c ∈ db.indexedBlocks.rows ∧ c.blockHash ≠ lower x.hash) ∨
      c = { b with isCanonical := true, scanComplete := true } := by
    intro c
    rw [ht, List.mem_map]
    constructor
    · rintro ⟨a, ha, rfl⟩
      by_cases he : a.blockHash = lower x.hash
      · rw [if_pos he, honly a ha he]
        exact .inr rfl
      · rw [if_neg he]
        exact .inl ⟨ha, he⟩
    · rintro (⟨hmem, hne⟩ | rfl)
      · exact ⟨c, hmem, if_neg hne⟩
      · exact ⟨b, hb, if_pos hlow⟩
  obtain ⟨h₁, h₂, _, h₄, h₅, h₆⟩ := h.named b hb
  refine h.put hrow hlow ⟨h₁, h₂, rfl, h₄, h₅, h₆⟩ rfl
    (fun c hmem hsame => honly c hmem hsame ▸ hc) fun k => ?_
  rw [List.mem_cons, h.again, exists_append_hash]
  constructor
  · rintro (rfl | ⟨hdone, hk⟩)
    · exact ⟨.inr rfl, hold⟩
    · exact ⟨.inl hdone, hk⟩
  · rintro ⟨hdone | rfl, hk⟩
    · exact .inr ⟨hdone, hk⟩
    · exact .inl rfl

/-- A block that is not there gets its row. -/
theorem HeadersDone.inserted {db₀ db' : Database} {done : List BlockHeader} {rc : List String}
    {x : BlockHeader} {row : BlockRow} (h : HeadersDone evidenceDigest B db₀ chain done db rc)
    (hhash : row.blockHash = lower x.hash) (hnamed : RowNamed evidenceDigest B row)
    (hcanonical : row.isCanonical = true) (hi : insertBlock row db = .ok db') :
    HeadersDone evidenceDigest B db₀ chain (done ++ [x]) db' rc := by
  obtain ⟨habsent, t, rfl, ht⟩ := insertBlock_ok hi
  have hother : ∀ c ∈ db.indexedBlocks.rows, c.blockHash ≠ lower x.hash :=
    fun c hmem hsame => habsent c hmem (hsame.trans hhash.symm)
  have hrow : ∀ c, c ∈ t.rows ↔
      (c ∈ db.indexedBlocks.rows ∧ c.blockHash ≠ lower x.hash) ∨ c = row := by
    intro c
    rw [ht, List.mem_append, List.mem_singleton]
    exact or_congr_left ⟨fun hmem => ⟨hmem, hother c hmem⟩, And.left⟩
  refine h.put hrow hhash hnamed hcanonical (fun c hmem hsame => absurd hsame (hother c hmem))
    fun k => ?_
  rw [h.again, exists_append_hash]
  constructor
  · rintro ⟨hdone, hk⟩
    exact ⟨.inl hdone, hk⟩
  · rintro ⟨hdone | rfl, hk⟩
    · exact ⟨hdone, hk⟩
    · obtain ⟨c, hmem, hsame⟩ := (h.known _).mpr (.inl hk)
      exact absurd hsame (hother c hmem)

/-- The row of a header is what its hash names, if its events are. -/
theorem rowNamed_blockRow (store : SqliteProjectionStore) {x : BlockHeader} (hx : B.Names x)
    {events : List OrderedEvent} (hevents : events.map lowered = B.events (lower x.hash)) :
    RowNamed evidenceDigest B (blockRow evidenceDigest store x events) where
  number := hx.1
  parentHash := hx.2
  scanComplete := rfl
  count := by
    change events.length = (B.events (lower x.hash)).length
    rw [← hevents, List.length_map]
  digest := by
    change observedLogDigest evidenceDigest _ =
      observedLogDigest evidenceDigest ((B.events (lower x.hash)).map _)
    rw [← hevents, observedLogDigest_lowered]
  lower := lower_lower _

theorem headersDone_step {store : SqliteProjectionStore} {events : List OrderedEvent}
    {db₀ db' : Database} {done : List BlockHeader} {rc rc' : List String} {x : BlockHeader}
    (h : HeadersDone evidenceDigest B db₀ chain done db rc) (hx : B.Names x)
    (hnames : ∀ y ∈ done, B.Names y) (hbelow : ∀ b ∈ chain, b.blockNumber < x.number)
    (hdone : ∀ y ∈ done, y.number < x.number) (hlisted : Listed B events [x])
    (hstep : commitHeader evidenceDigest store events (db, rc) x = .ok (db', rc')) :
    HeadersDone evidenceDigest B db₀ chain (done ++ [x]) db' rc' := by
  have hnew : ∀ y ∈ done, lower y.hash ≠ lower x.hash := by
    intro y hy he
    have hn := (hnames y hy).1
    rw [he, ← hx.1] at hn
    exact absurd hn (Nat.ne_of_lt (hdone y hy))
  rcases commitHeader_ok hstep with ⟨b, hb, hhash, hc, _, _⟩ |
      ⟨b, hb, hhash, hc, rfl, hr⟩ | ⟨_, rfl, hi⟩
  · -- a canonical row of this hash would have a smaller number than itself
    have hlt := h.fresh hnames hbelow hdone hb hc
    have hn := (h.named b hb).number
    rw [← (h.named b hb).lower, hhash, ← hx.1] at hn
    omega
  · have hlow : b.blockHash = lower x.hash := by
      rw [← (h.named b hb).lower, hhash]
    exact h.recanonicalized hnew hb hlow hc hr
  · exact h.inserted rfl (rowNamed_blockRow store hx (hlisted x (List.mem_singleton_self x))) rfl hi

theorem headersDone_start (hnamed : ∀ b ∈ db.indexedBlocks.rows, RowNamed evidenceDigest B b)
    (hcanonical : ∀ b, b ∈ chain ↔ b ∈ db.indexedBlocks.rows ∧ b.isCanonical = true) :
    HeadersDone evidenceDigest B db chain [] db [] where
  frame := ⟨db.indexedBlocks, rfl⟩
  named := hnamed
  known := fun h => by simp
  again := fun h => by simp
  canonical := ⟨[], rfl, by simpa using hcanonical⟩

theorem headersDone_run {store : SqliteProjectionStore} {events : List OrderedEvent}
    {db₀ db' : Database} {todo done : List BlockHeader} {rc rc' : List String}
    (h : HeadersDone evidenceDigest B db₀ chain done db rc)
    (hnames : ∀ y ∈ done ++ todo, B.Names y)
    (hbelow : ∀ b ∈ chain, ∀ x ∈ todo, b.blockNumber < x.number)
    (hsorted : (done ++ todo).Pairwise fun a b => a.number < b.number)
    (hlisted : Listed B events todo)
    (hrun : todo.foldlM (commitHeader evidenceDigest store events) (db, rc) = .ok (db', rc')) :
    HeadersDone evidenceDigest B db₀ chain (done ++ todo) db' rc' := by
  induction todo generalizing done db rc with
  | nil =>
    obtain ⟨rfl, rfl⟩ := Prod.mk.inj (Except.ok.inj hrun)
    simpa using h
  | cons x rest ih =>
    rw [List.foldlM_cons] at hrun
    obtain ⟨⟨db₁, rc₁⟩, hstep, hrest⟩ := bind_ok.mp hrun
    have hdone : ∀ y ∈ done, y.number < x.number := fun y hy =>
      (List.pairwise_append.mp hsorted).2.2 y hy x List.mem_cons_self
    have hx := headersDone_step h (hnames x (by simp))
      (fun y hy => hnames y (List.mem_append_left _ hy))
      (fun b hb => hbelow b hb x List.mem_cons_self) hdone
      (fun y hy => hlisted y (List.mem_singleton.mp hy ▸ List.mem_cons_self)) hstep
    rw [List.append_cons] at hnames hsorted ⊢
    exact ih hx hnames (fun b hb y hy => hbelow b hb y (List.mem_cons_of_mem _ hy)) hsorted
      (fun y hy => hlisted y (List.mem_cons_of_mem _ hy)) hrest

@[simp] theorem eventRow_lowered (e : OrderedEvent) :
    eventRow evidenceDigest (lowered e) = eventRow evidenceDigest e := by
  have henv := eventEnvelope_eventEnvelope e.toEnvelope
  simp only [eventRow, rawEnvelopeDigest, sourceRecordDigest, lowered, henv]
  simp [eventEnvelope, List.map_map, Function.comp_def]

theorem eventRow_of_key {e : OrderedEvent} {h : String} (he : lowered e ∈ B.events h)
    {r : EventRow} {k : String} (hr : r ∈ B.rows evidenceDigest k)
    (hkey : r.key = (lower e.blockHash, e.logIndex)) : r = eventRow evidenceDigest e := by
  obtain ⟨e', he', rfl⟩ := Blocks.mem_rows.mp hr
  obtain ⟨hhash, hlog⟩ := Prod.mk.inj hkey
  have hk : k = h := by
    rw [← Blocks.rows_hash hr, ← (B.located h _ he).2.1]
    exact hhash
  subst hk
  rw [B.eq_of_logIndex he' he hlog, eventRow_lowered]

/-- Whether `recordEvent` applies an event to the tables. -/
def applies (again : Bool) (ordered : OrderedEvent) (db : Database) : Bool :=
  again || (db.chainEvents.find? (ordered.blockHash, ordered.logIndex)).isNone

section
variable (evidenceDigest : Evidence → String)

/-- The events that `recordEvents` applies to the tables. -/
def appliedEvents (store : SqliteProjectionStore) (recanonicalized : List String) :
    List OrderedEvent → Database → List OrderedEvent
  | [], _ => []
  | ordered :: rest, db =>
    let again := recanonicalized.contains (lower ordered.blockHash)
    match recordEvent evidenceDigest store ordered again db with
    | .error _ => []
    | .ok db' =>
      if applies again ordered db then ordered :: appliedEvents store recanonicalized rest db'
      else appliedEvents store recanonicalized rest db'

def appliedByCommit (store : SqliteProjectionStore) (headers : List BlockHeader)
    (events : List OrderedEvent) (db : Database) : List OrderedEvent :=
  match headers.foldlM (commitHeader evidenceDigest store events) (db, []) with
  | .error _ => []
  | .ok (db, recanonicalized) => appliedEvents evidenceDigest store recanonicalized events db

end

theorem recordEvent_applied {store : SqliteProjectionStore} {e : OrderedEvent} {again : Bool}
    {db' : Database} (h : recordEvent evidenceDigest store e again db = .ok db') :
    applies again e db = true ∧
        applyEvent store.collectionAddress e db.projections = .ok db'.projections ∨
      applies again e db = false ∧ db'.projections = db.projections := by
  rcases recordEvent_ok h with ⟨r, hr, hkey, ⟨ha, happly⟩ | ⟨ha, rfl⟩⟩ | ⟨hnew, t, _, happly⟩
  · obtain ⟨p, hp, rfl⟩ := applyToTables_ok.mp happly
    exact .inl ⟨by simp [applies, ha], hp⟩
  · have hfind := Table.find?_some.mpr ⟨hr, hkey⟩
    exact .inr ⟨by simp [applies, ha, hfind], rfl⟩
  · obtain ⟨p, hp, rfl⟩ := applyToTables_ok.mp happly
    have hfind := Table.find?_none.mpr hnew
    exact .inl ⟨by simp [applies, hfind], hp⟩

theorem recordEvents_applied {store : SqliteProjectionStore} {rc : List String}
    {events : List OrderedEvent} {db' : Database}
    (h : recordEvents evidenceDigest store rc events db = .ok db') :
    applyEvents store.collectionAddress (appliedEvents evidenceDigest store rc events db)
      db.projections = .ok db'.projections := by
  induction events generalizing db with
  | nil =>
    obtain rfl := Except.ok.inj h
    rfl
  | cons e rest ih =>
    rw [recordEvents, List.foldlM_cons] at h
    obtain ⟨db₁, hstep, hrest⟩ := bind_ok.mp h
    simp only [appliedEvents, hstep]
    rcases recordEvent_applied hstep with ⟨happlies, hp⟩ | ⟨happlies, hp⟩
    · rw [if_pos happlies, applyEvents, List.foldlM_cons, hp]
      exact ih hrest
    · rw [happlies, ← hp]
      exact ih hrest

/-- An event is applied when its block is canonical again or its row was not
there; in any case its row is there afterwards. -/
theorem recordEvent_rows {store : SqliteProjectionStore} {e : OrderedEvent} {again : Bool}
    {db' : Database} {h : String}
    (hnamed : ∀ r ∈ db.chainEvents.rows, ∃ k, r ∈ B.rows evidenceDigest k)
    (he : lowered e ∈ B.events h)
    (hstep : recordEvent evidenceDigest store e again db = .ok db') :
    ∃ t p, db' = { db with chainEvents := t, projections := p } ∧
      (∀ r, r ∈ t.rows ↔ r ∈ db.chainEvents.rows ∨ r = eventRow evidenceDigest e) ∧
      applies again e db =
        decide (again = true ∨ eventRow evidenceDigest e ∉ db.chainEvents.rows) := by
  have hlow : ∀ r ∈ db.chainEvents.rows, lower r.blockHash = r.blockHash := by
    intro r hr
    obtain ⟨k, hk⟩ := hnamed r hr
    obtain ⟨e', _, rfl⟩ := Blocks.mem_rows.mp hk
    exact lower_lower _
  rcases recordEvent_ok hstep with ⟨r, hr, hkey, hagain⟩ | ⟨hnew, t, ht, happly⟩
  · obtain ⟨k, hk⟩ := hnamed r hr
    have hfind := Table.find?_some.mpr ⟨hr, hkey⟩
    have hrow : r = eventRow evidenceDigest e := by
      refine eventRow_of_key he hk ?_
      obtain ⟨hhash, hlog⟩ := Prod.mk.inj hkey
      have hl := hlow r hr
      rw [hhash] at hl
      rw [EventRow.key, hhash, hlog, hl]
    subst hrow
    have hrows : ∀ r, r ∈ db.chainEvents.rows ↔
        r ∈ db.chainEvents.rows ∨ r = eventRow evidenceDigest e := by
      intro r
      constructor
      · exact .inl
      · rintro (h | rfl)
        · exact h
        · exact hr
    have happlies : applies again e db =
        decide (again = true ∨ eventRow evidenceDigest e ∉ db.chainEvents.rows) := by
      simp [applies, hfind, hr]
    rcases hagain with ⟨_, happly⟩ | ⟨_, rfl⟩
    · obtain ⟨p, _, rfl⟩ := applyToTables_ok.mp happly
      exact ⟨db.chainEvents, p, rfl, hrows, happlies⟩
    · exact ⟨db'.chainEvents, db'.projections, rfl, hrows, happlies⟩
  · obtain ⟨p, _, rfl⟩ := applyToTables_ok.mp happly
    have hfind := Table.find?_none.mpr hnew
    have habsent : eventRow evidenceDigest e ∉ db.chainEvents.rows := by
      intro hmem
      have hdup := t.nodup
      rw [ht, List.map_append, List.nodup_append] at hdup
      exact hdup.2.2 _ (List.mem_map_of_mem hmem) _ (List.mem_singleton_self _) rfl
    exact ⟨t, p, rfl, fun r => by rw [ht, List.mem_append, List.mem_singleton],
      by simp [applies, hfind, habsent]⟩

/-- The events of a batch leave their rows behind. Those are applied, in order,
whose block is canonical again or whose row was not there. -/
theorem recordEvents_rows {store : SqliteProjectionStore} {rc : List String}
    {events : List OrderedEvent} {db' : Database}
    (hnamed : ∀ r ∈ db.chainEvents.rows, ∃ k, r ∈ B.rows evidenceDigest k)
    (hevents : ∀ e ∈ events, ∃ h, lowered e ∈ B.events h)
    (hdistinct : (events.map (eventRow evidenceDigest)).Nodup)
    (hrun : recordEvents evidenceDigest store rc events db = .ok db') :
    ∃ t p, db' = { db with chainEvents := t, projections := p } ∧
      (∀ r, r ∈ t.rows ↔ r ∈ db.chainEvents.rows ∨ r ∈ events.map (eventRow evidenceDigest)) ∧
      appliedEvents evidenceDigest store rc events db =
        events.filter fun e => rc.contains (lower e.blockHash) ∨
          eventRow evidenceDigest e ∉ db.chainEvents.rows := by
  induction events generalizing db with
  | nil =>
    obtain rfl := Except.ok.inj hrun
    exact ⟨db.chainEvents, db.projections, rfl, by simp, rfl⟩
  | cons e rest ih =>
    rw [recordEvents, List.foldlM_cons] at hrun
    obtain ⟨db₁, hstep, hrest⟩ := bind_ok.mp hrun
    obtain ⟨h, he⟩ := hevents e List.mem_cons_self
    rw [appliedEvents, hstep]
    obtain ⟨t₁, p₁, rfl, ht₁, happlies⟩ := recordEvent_rows hnamed he hstep
    have hnamed₁ : ∀ r ∈ t₁.rows, ∃ k, r ∈ B.rows evidenceDigest k := by
      intro r hr
      rcases (ht₁ r).mp hr with hr | rfl
      · exact hnamed r hr
      · exact ⟨h, Blocks.mem_rows.mpr ⟨_, he, eventRow_lowered e⟩⟩
    obtain ⟨hfresh, hdistinct⟩ := List.nodup_cons.mp hdistinct
    obtain ⟨t, p, rfl, ht, hrestApplied⟩ := ih hnamed₁
      (fun e he => hevents e (List.mem_cons_of_mem _ he)) hdistinct hrest
    refine ⟨t, p, rfl, fun r => ?_, ?_⟩
    · rw [ht]
      simp only [ht₁, List.map_cons, List.mem_cons]
      tauto
    · -- the row of the first event is no other event's row
      have hsame : (rest.filter fun e => rc.contains (lower e.blockHash) ∨
            eventRow evidenceDigest e ∉ t₁.rows) =
          rest.filter fun e => rc.contains (lower e.blockHash) ∨
            eventRow evidenceDigest e ∉ db.chainEvents.rows := by
        refine List.filter_congr fun e' he' => ?_
        have hne : eventRow evidenceDigest e' ≠ eventRow evidenceDigest e := fun heq =>
          hfresh (heq ▸ List.mem_map_of_mem he')
        simp only [ht₁, hne, or_false]
      simp only [List.filter_cons, happlies, hrestApplied, hsame]

def nextBlock (db : Database) : ℕ :=
  match db.checkpoint.lastScanned with
  | none => db.scanStartBlock
  | some (number, _) => number + 1

/-- A batch extends the checkpoint, or starts the scan, by consecutive blocks
linked by their hashes, with the events of those blocks in order. -/
structure Extends (B : Blocks) (db : Database) (headers : List BlockHeader)
    (events : List OrderedEvent) : Prop where
  names : ∀ x ∈ headers, B.Names x
  numbers : headers.map BlockHeader.number = List.range' (nextBlock db) headers.length
  linked : headers.IsChain fun a b => lower b.parentHash = lower a.hash
  parent : ∀ number hash, db.checkpoint.lastScanned = some (number, hash) →
    ∀ x ∈ headers.head?, lower x.parentHash = hash
  events : events.map lowered = B.batchEvents headers

/-- A batch of consecutive blocks from the checkpoint or the scan start on,
linked by their hashes, with logs of those blocks. -/
structure Contiguous (db : Database) (headers : List BlockHeader) (events : List OrderedEvent)
    (last : BlockHeader) : Prop where
  last : headers.getLast? = some last
  numbers : headers.map BlockHeader.number = List.range' (nextBlock db) headers.length
  linked : headers.IsChain fun a b => lower b.parentHash = lower a.hash
  parent : ∀ number hash, db.checkpoint.lastScanned = some (number, hash) →
    ∀ x ∈ headers.head?, lower x.parentHash = hash
  located : ∀ e ∈ events, ∃ x ∈ headers, e.blockNumber = x.number ∧
    lower e.blockHash = lower x.hash

theorem Spine.nextBlock_eq (h : Spine chain db) :
    nextBlock db = db.scanStartBlock + chain.length := by
  unfold nextBlock
  cases hc : db.checkpoint.lastScanned with
  | none =>
    have hlast := h.checkpoint
    rw [hc, eq_comm, Option.map_eq_none_iff, List.getLast?_eq_none_iff] at hlast
    simp [hlast]
  | some c => exact (h.checkpoint_number hc).2

section
variable {headers : List BlockHeader} {events : List OrderedEvent}

theorem pairwise_number {start : ℕ}
    (h : headers.map BlockHeader.number = List.range' start headers.length) :
    headers.Pairwise fun a b => a.number < b.number := by
  have hs : (headers.map BlockHeader.number).Pairwise (· < ·) := by
    rw [h]
    exact List.pairwise_lt_range' 1 (by decide)
  exact List.pairwise_map.mp hs

theorem Blocks.number_event (hnames : ∀ x ∈ headers, B.Names x) {e : OrderedEvent}
    (he : e ∈ B.batchEvents headers) : ∃ x ∈ headers, e ∈ B.events (lower x.hash) ∧
      e.blockNumber = x.number := by
  obtain ⟨x, hx, hex⟩ := List.mem_flatMap.mp he
  exact ⟨x, hx, hex, (B.located _ e hex).1.trans (hnames x hx).1.symm⟩

theorem Blocks.sorted_batchEvents (hnames : ∀ x ∈ headers, B.Names x)
    (hsorted : headers.Pairwise fun a b => a.number < b.number) :
    (B.batchEvents headers).Pairwise fun a b => Before a.toEnvelope b.toEnvelope := by
  refine List.pairwise_flatMap.mpr ⟨fun x _ => B.sorted _, ?_⟩
  refine hsorted.imp_of_mem fun {x y} hx hy hlt a ha b hb => .inl ?_
  rw [(B.located _ a ha).1, (B.located _ b hb).1, ← (hnames x hx).1, ← (hnames y hy).1]
  exact hlt

theorem Blocks.filter_batchEvents {x : BlockHeader} (hnames : ∀ y ∈ headers, B.Names y)
    (hsorted : headers.Pairwise fun a b => a.number < b.number) (hx : x ∈ headers) :
    (B.batchEvents headers).filter (fun e => e.blockNumber = x.number) =
      B.events (lower x.hash) := by
  induction headers with
  | nil => cases hx
  | cons y rest ih =>
    obtain ⟨hlt, hrest⟩ := List.pairwise_cons.mp hsorted
    have hy := hnames y List.mem_cons_self
    have hnamesRest : ∀ z ∈ rest, B.Names z := fun z hz => hnames z (List.mem_cons_of_mem _ hz)
    rw [Blocks.batchEvents, List.flatMap_cons, List.filter_append]
    rcases List.mem_cons.mp hx with rfl | hx
    · have hhead : (B.events (lower x.hash)).filter (fun e => e.blockNumber = x.number) =
          B.events (lower x.hash) :=
        List.filter_eq_self.mpr fun e he =>
          decide_eq_true ((B.located _ e he).1.trans hy.1.symm)
      have htail : (B.batchEvents rest).filter (fun e => e.blockNumber = x.number) = [] := by
        refine List.filter_eq_nil_iff.mpr fun e he => ?_
        obtain ⟨z, hz, _, hn⟩ := Blocks.number_event hnamesRest he
        have := hlt z hz
        simp only [decide_eq_true_eq]
        omega
      rw [hhead]
      exact (congrArg _ htail).trans (List.append_nil _)
    · have hhead : (B.events (lower y.hash)).filter (fun e => e.blockNumber = x.number) = [] := by
        refine List.filter_eq_nil_iff.mpr fun e he => ?_
        have hn := (B.located _ e he).1.trans hy.1.symm
        have := hlt x hx
        simp only [decide_eq_true_eq]
        omega
      rw [hhead]
      exact ih hnamesRest hrest hx

theorem Blocks.nodup_batchRows (hnames : ∀ x ∈ headers, B.Names x)
    (hsorted : headers.Pairwise fun a b => a.number < b.number) :
    ((B.batchEvents headers).map (eventRow evidenceDigest)).Nodup := by
  have hrows : (B.batchEvents headers).map (eventRow evidenceDigest) =
      headers.flatMap fun x => B.rows evidenceDigest (lower x.hash) := List.map_flatMap
  rw [hrows]
  refine List.nodup_flatMap.mpr ⟨fun x _ => Blocks.nodup_rows _, ?_⟩
  refine hsorted.imp_of_mem fun {x y} hx hy hlt r hrx hry => ?_
  have hhash := (Blocks.rows_hash hrx).symm.trans (Blocks.rows_hash hry)
  have hn := (hnames x hx).1
  rw [hhash, ← (hnames y hy).1] at hn
  omega

theorem Extends.sorted (h : Extends B db headers events) :
    headers.Pairwise fun a b => a.number < b.number := pairwise_number h.numbers

theorem Extends.listed (h : Extends B db headers events) : Listed B events headers := by
  intro x hx
  have hsorted : events.Pairwise fun a b => Before a.toEnvelope b.toEnvelope := by
    have hb := Blocks.sorted_batchEvents h.names h.sorted
    rw [← h.events, List.pairwise_map] at hb
    exact hb
  rw [sortEvents, (hsorted.filter _).insertionSort_eq,
    ← Blocks.filter_batchEvents h.names h.sorted hx, ← h.events, List.filter_map]
  rfl

theorem Extends.rows (h : Extends B db headers events) :
    events.map (eventRow evidenceDigest) =
      (B.batchEvents headers).map (eventRow evidenceDigest) := by
  rw [← h.events, List.map_map]
  exact List.map_congr_left fun e _ => (eventRow_lowered e).symm

theorem Extends.located (h : Extends B db headers events) {e : OrderedEvent} (he : e ∈ events) :
    ∃ x ∈ headers, lowered e ∈ B.events (lower x.hash) := by
  have hmem : lowered e ∈ B.batchEvents headers := h.events ▸ List.mem_map_of_mem he
  obtain ⟨x, hx, hex⟩ := List.mem_flatMap.mp hmem
  exact ⟨x, hx, hex⟩

end

/-- What a commit of a batch leaves behind. An event is not applied when its row
was stored and its block's was not. -/
structure Extended (evidenceDigest : Evidence → String) (B : Blocks)
    (store : SqliteProjectionStore) (chain : List BlockRow) (db : Database) (headers : List BlockHeader)
    (events : List OrderedEvent) (db' : Database) : Prop where
  scanStartBlock : db'.scanStartBlock = db.scanStartBlock
  named : ∀ b ∈ db'.indexedBlocks.rows, RowNamed evidenceDigest B b
  known : ∀ h, (∃ b ∈ db'.indexedBlocks.rows, b.blockHash = h) ↔
    (∃ b ∈ db.indexedBlocks.rows, b.blockHash = h) ∨ ∃ x ∈ headers, lower x.hash = h
  spine : ∃ added : List BlockRow, added.map BlockRow.blockHash = headers.map (lower ·.hash) ∧
    Spine (chain ++ added) db'
  stored : ∀ r, r ∈ db'.chainEvents.rows ↔
    r ∈ db.chainEvents.rows ∨ ∃ x ∈ headers, r ∈ B.rows evidenceDigest (lower x.hash)
  applied : appliedByCommit evidenceDigest store headers events db =
    events.filter fun e => (∃ b ∈ db.indexedBlocks.rows, b.blockHash = lower e.blockHash) ∨
      eventRow evidenceDigest e ∉ db.chainEvents.rows
  projections : applyEvents store.collectionAddress
    (appliedByCommit evidenceDigest store headers events db) db.projections = .ok db'.projections

theorem Spine.append {headers : List BlockHeader} {events : List OrderedEvent}
    {last : BlockHeader} {added : List BlockRow} {db' : Database} (hspine : Spine chain db)
    (hbatch : Extends B db headers events) (hlast : headers.getLast? = some last)
    (hnamed : ∀ b ∈ added, RowNamed evidenceDigest B b)
    (hadded : added.map BlockRow.blockHash = headers.map (lower ·.hash))
    (hcanonical : ∀ b, b ∈ chain ++ added ↔
      b ∈ db'.indexedBlocks.rows ∧ b.isCanonical = true)
    (hstart : db'.scanStartBlock = db.scanStartBlock)
    (hcheckpoint : db'.checkpoint.lastScanned = some (last.number, lower last.hash)) :
    Spine (chain ++ added) db' := by
  have hpairs : added.map (fun b => (b.blockNumber, b.blockHash)) =
      headers.map fun x => (x.number, lower x.hash) := by
    calc added.map (fun b => (b.blockNumber, b.blockHash))
        = (added.map BlockRow.blockHash).map fun h => (B.number h, h) := by
          rw [List.map_map]
          exact List.map_congr_left fun b hb => Prod.ext (hnamed b hb).number rfl
      _ = headers.map fun x => (x.number, lower x.hash) := by
          rw [hadded, List.map_map]
          exact List.map_congr_left fun x hx => Prod.ext (hbatch.names x hx).1.symm rfl
  have hlength : added.length = headers.length := by
    simpa using congrArg List.length hadded
  constructor
  · exact hcanonical
  · have hnumbers : added.map BlockRow.blockNumber = List.range' (nextBlock db) added.length := by
      have hfst := congrArg (List.map Prod.fst) hpairs
      rw [List.map_map, List.map_map] at hfst
      exact hfst.trans (hlength ▸ hbatch.numbers)
    rw [List.map_append, hspine.numbers, hnumbers, hspine.nextBlock_eq, hstart,
      List.range'_append_1, List.length_append]
  · have hlinked : added.IsChain fun a b => b.parentHash = a.blockHash := by
      have hchain : (headers.map (lower ·.hash)).IsChain fun g h => B.parentHash h = g := by
        rw [List.isChain_map]
        refine List.IsChain.imp_of_mem_imp (fun a b _ hb hl => ?_) hbatch.linked
        rw [← (hbatch.names b hb).2, hl]
      rw [← hadded, List.isChain_map] at hchain
      exact List.IsChain.imp_of_mem_imp
        (fun a b _ hb hl => (hnamed b hb).parentHash.trans hl) hchain
    refine List.isChain_append.mpr ⟨hspine.linked, hlinked, fun a ha b hb => ?_⟩
    have hc : db.checkpoint.lastScanned = some (a.blockNumber, a.blockHash) := by
      rw [hspine.checkpoint, Option.mem_def.mp ha]
      rfl
    have hhead := congrArg List.head? hadded
    rw [List.head?_map, List.head?_map, Option.mem_def.mp hb] at hhead
    obtain ⟨x, hx, hhash⟩ := Option.map_eq_some_iff.mp hhead.symm
    have hmem : x ∈ headers := List.mem_of_mem_head? hx
    rw [(hnamed b (List.mem_of_mem_head? hb)).parentHash, ← hhash, ← (hbatch.names x hmem).2]
    exact hbatch.parent _ _ hc x hx
  · have hl := congrArg List.getLast? hpairs
    rw [List.getLast?_map, List.getLast?_map, hlast] at hl
    have hsome : added.getLast?.isSome := by
      rw [← Option.isSome_map, hl]
      rfl
    rw [hcheckpoint, List.getLast?_append, Option.or_of_isSome hsome, hl]
    rfl

theorem commitTransaction_extended {store : SqliteProjectionStore} {headers : List BlockHeader}
    {events : List OrderedEvent} {last : BlockHeader} {db' : Database} (hspine : Spine chain db)
    (hnamed : ∀ b ∈ db.indexedBlocks.rows, RowNamed evidenceDigest B b)
    (hrows : ∀ r ∈ db.chainEvents.rows, ∃ k, r ∈ B.rows evidenceDigest k)
    (hbatch : Extends B db headers events) (hlast : headers.getLast? = some last)
    (h : commitTransaction evidenceDigest store headers events last db = .ok db') :
    Extended evidenceDigest B store chain db headers events db' := by
  obtain ⟨db₁, rc, db₂, hheaders, hevents, rfl⟩ := commitTransaction_ok h
  have hnext := hspine.nextBlock_eq
  have hbelow : ∀ b ∈ chain, ∀ x ∈ headers, b.blockNumber < x.number := by
    intro b hb x hx
    have hn : x.number ∈ headers.map BlockHeader.number := List.mem_map_of_mem hx
    rw [hbatch.numbers, List.mem_range'_1] at hn
    have := hspine.number_lt hb
    omega
  have hdone := headersDone_run (headersDone_start hnamed hspine.canonical) hbatch.names hbelow
    hbatch.sorted hbatch.listed hheaders
  rw [List.nil_append] at hdone
  obtain ⟨t, rfl⟩ := hdone.frame
  obtain ⟨added, hadded, hcanonical⟩ := hdone.canonical
  have hdistinct : (events.map (eventRow evidenceDigest)).Nodup := by
    rw [hbatch.rows]
    exact Blocks.nodup_batchRows hbatch.names hbatch.sorted
  have hrows₁ : ∀ r ∈ { db with indexedBlocks := t }.chainEvents.rows,
      ∃ k, r ∈ B.rows evidenceDigest k := hrows
  obtain ⟨t', p, rfl, ht', happlied⟩ := recordEvents_rows hrows₁
    (fun e he => let ⟨x, _, hx⟩ := hbatch.located he; ⟨_, hx⟩) hdistinct hevents
  have hnamedAdded : ∀ b ∈ added, RowNamed evidenceDigest B b := fun b hb =>
    hdone.named b ((hcanonical b).mp (List.mem_append_right _ hb)).1
  constructor
  · rfl
  · exact hdone.named
  · exact hdone.known
  · exact ⟨added, hadded, hspine.append hbatch hlast hnamedAdded hadded hcanonical rfl rfl⟩
  · intro r
    change r ∈ t'.rows ↔ _
    rw [ht', hbatch.rows, Blocks.batchEvents, List.map_flatMap, List.mem_flatMap]
    rfl
  · rw [appliedByCommit, hheaders]
    refine happlied.trans (List.filter_congr fun e he => ?_)
    obtain ⟨x, hx, hex⟩ := hbatch.located he
    have hhash : lower x.hash = lower e.blockHash := (B.located _ _ hex).2.1.symm
    have hin : ∃ x ∈ headers, lower x.hash = lower e.blockHash := ⟨x, hx, hhash⟩
    simp only [List.contains_iff_mem, hdone.again, hin, true_and]
  · have hfold := recordEvents_applied hevents
    rw [appliedByCommit, hheaders]
    exact hfold

end
end MotorCove.Indexer
