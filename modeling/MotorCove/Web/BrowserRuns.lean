import MotorCove.Web.SubmissionRuns

/-!
# Runs of a browser

Every run keeps to the rules, so that over any interleaving of the tabs'
submissions and rechecks, with any answers and tabs that close at any await, a
row is only replaced by the next revision of itself, the wallet is asked only
over a stored row, and rows say what was answered.
-/

set_option autoImplicit false

namespace MotorCove.Web
open MotorCove.Asynchrony MotorCove.Histories

variable {π ι : Type}

namespace Rules
variable {R : Rules} {runs : π → Run} {E : Surroundings Answer Moment} {tab : π → ι}

def regime (R : Rules) (runs : π → Run) (E : Surroundings Answer Moment) (tab : π → ι)
    (hids : ∀ p q, p ≠ q → (runs p).uuid ≠ (runs q).uuid) :
    Regime (browser E tab) LocalStorageJournal where
  discipline p := R.discipline (runs p) E
  refl _ s := Relies.refl s
  trans _ _ _ _ hab hbc := hab.trans hbc
  near p q hne _ _ _ hgrants hinv := hgrants.1.relies (hids q p (Ne.symm hne)) hgrants.2 hinv.1
    hinv.2
  far p q hhome _ _ hgrants hinv d :=
    hgrants.1.relies_elsewhere (hids q p fun h => hhome (congrArg tab h.symm)) hinv.1 d
  close _ _ _ s := Relies.refl s

/-- What the rules ask of the storage and the runs that a browser begins with. -/
structure Begins (R : Rules) (storage : LocalStorage) (runs : π → Run) : Prop where
  shared : R.Shared storage
  attempts : ∀ p context action, (runs p).task = .submit context action →
    R.attempts (runs p).uuid ∧ ∀ createdAt, (preparing (runs p).uuid context action
      createdAt).intent = R.intents context.deploymentId (runs p).uuid
  unmarked : R.healthy → ∀ p, Unmarked (runs p) storage

theorem called_triple (hE : R.Fits E) {storage : LocalStorage} (h : R.Begins storage runs)
    (p : π) :
    Triple (R.discipline (runs p) E) (fun s => R.healthy → Unmarked (runs p) s.1)
      (runs p).called (fun _ _ => True) (fun _ _ => True) := by
  unfold Run.called
  apply (Triple.request unmarked_steady.stable (fun s _ _ h => by cases h)
    fun _ _ _ _ h => h).bind
  intro _
  unfold Run.program
  split
  · rename_i context action htask
    obtain ⟨hattempt, hintent⟩ := h.attempts p context action htask
    apply Triple.bind ((submitOperation_triple hE htask hattempt hintent).pre fun _ _ _ => trivial)
    exact fun _ => Triple.pure fun _ _ _ => trivial
  · apply Triple.bind (recheck_triple hE _ _ _ _ _)
    exact fun _ => Triple.pure fun _ _ _ => trivial

theorem memory_new : R.Memory .new where
  sound _ h := absurd h List.not_mem_nil
  later _ h := absurd h List.not_mem_nil
  calm _ := ⟨rfl, fun _ => rfl⟩

variable {storage : LocalStorage} {last : Session π ι}
  {history : List (Transition (Session π ι) (Act π ι))}

variable (tab) in
theorem start_holds (hE : R.Fits E) (h : R.Begins storage runs)
    (hids : ∀ p q, p ≠ q → (runs p).uuid ≠ (runs q).uuid) :
    ((R.regime runs E tab hids).contract (ε := JsError) (α := Outcome)).Holds
      (Session.start storage runs) :=
  (R.regime runs E tab hids).holds fun p => ⟨_, _, _, called_triple hE h p,
    ⟨h.shared, memory_new⟩, fun hhealthy => h.unmarked hhealthy p⟩

structure Acts (R : Rules) (runs : π → Run) (t : Transition (Session π ι) (Act π ι)) : Prop where
  before : R.Shared t.before.shared
  after : R.Shared t.after.shared
  writes : t.after.shared = t.before.shared ∨
    ∃ p, t.label = .resume p ∧ R.Writes (runs p) t.before.shared t.after.shared
  asks : ∀ p next, t.label = .resume p → t.after.left p = .await .submit next →
    R.Asked (runs p) t.after.shared

variable [DecidableEq π] [DecidableEq ι]

theorem act_keeps (hids : ∀ p q, p ≠ q → (runs p).uuid ≠ (runs q).uuid)
    {t : Transition (Session π ι) (Act π ι)}
    (hstep : Asynchrony.Step (browser E tab) t.before t.label t.after)
    (hpromised : ∀ p, t.label = .resume p → ((R.regime runs E tab hids).contract
      (ε := JsError) (α := Outcome)).promises p (t.after.left p)
        (t.before.view (browser E tab) p) (t.after.view (browser E tab) p))
    (hshared : R.Shared t.before.shared) (hmemory : ∀ i, R.Memory (t.before.desk i)) :
    R.Acts runs t ∧ ∀ i, R.Memory (t.after.desk i) := by
  cases hlabel : t.label with
  | resume p =>
    obtain ⟨hgrants, hinv, hpermits⟩ := hpromised p hlabel
    refine ⟨⟨hshared, hinv.1, .inr ⟨p, hlabel, hgrants.1⟩, ?_⟩, fun i => ?_⟩
    · intro q next hq hleft
      rw [hlabel] at hq
      cases hq
      exact hpermits _ _ hleft rfl
    · by_cases hi : i = tab p
      · exact hi ▸ hinv.2
      · rw [hlabel] at hstep
        rw [hstep.desk_of_ne hi]
        exact hmemory i
  | close i =>
    have hsame : t.after.shared = t.before.shared ∧ t.after.desk = t.before.desk := by
      rw [hlabel] at hstep
      generalize t.after = after at hstep
      cases hstep
      exact ⟨rfl, rfl⟩
    refine ⟨⟨hshared, hsame.1 ▸ hshared, .inl hsame.1, ?_⟩, hsame.2 ▸ hmemory⟩
    intro q next hq
    rw [hlabel] at hq
    cases hq

theorem acts (hE : R.Fits E) (h : R.Begins storage runs)
    (hids : ∀ p q, p ≠ q → (runs p).uuid ≠ (runs q).uuid)
    (hrun : IsHistory (Asynchrony.Step (browser E tab)) (Session.start storage runs) history last) :
    R.Shared last.shared ∧ (∀ i, R.Memory (last.desk i)) ∧ ∀ t ∈ history, R.Acts runs t := by
  have hpromised := ((start_holds tab hE h hids).run hrun).2
  have hshared : R.Shared (Session.start (ι := ι) storage runs).shared := h.shared
  have hmemory : ∀ i, R.Memory ((Session.start (ι := ι) storage runs).desk i) :=
    fun _ => memory_new
  revert hshared hmemory hrun
  generalize (Session.start storage runs : Session π ι) = w
  intro hrun hshared hmemory
  induction history generalizing w with
  | nil =>
    obtain rfl := hrun
    exact ⟨hshared, hmemory, fun t ht => absurd ht List.not_mem_nil⟩
  | cons t rest ih =>
    obtain ⟨rfl, hstep, hrest⟩ := hrun
    obtain ⟨hact, hkept⟩ := act_keeps hids hstep (hpromised t List.mem_cons_self).2 hshared hmemory
    obtain ⟨hlast, hdesks, hall⟩ := ih (fun t' ht' => hpromised t' (List.mem_cons_of_mem _ ht')) _
      hrest hact.after hkept
    refine ⟨hlast, hdesks, fun t' ht' => ?_⟩
    rcases List.mem_cons.mp ht' with rfl | ht'
    · exact hact
    · exact hall t' ht'

end Rules

/-- Rows as the journal files them, and runs with ids of their own. -/
structure Opens (storage : LocalStorage) (runs : π → Run) : Prop where
  filed : Filed storage
  ids : ∀ p q, p ≠ q → (runs p).uuid ≠ (runs q).uuid
  fresh : ∀ p deploymentId, ∀ row ∈ rows storage deploymentId,
    row.clientOperationId ≠ (runs p).uuid

def Submits (runs : π → Run) (id : String) (intent : Intent) : Prop :=
  ∃ p context action, (runs p).task = .submit context action ∧ (runs p).uuid = id ∧
    intent = (preparing id context action "").intent

/-- An operation is for what its row says, or for what its submission is for. -/
noncomputable def intentOf (storage : LocalStorage) (runs : π → Run)
    (deploymentId id : String) : Intent :=
  match row? storage deploymentId id with
  | some row => row.intent
  | none => Classical.epsilon (Submits runs id)

/-- The rules of a browser that opens on a storage, by the answers it gets. -/
noncomputable def rulesOf (healthy traced : Prop) (E : Surroundings Answer Moment)
    (storage : LocalStorage) (runs : π → Run) : Rules where
  healthy := healthy
  traced := traced
  intents := intentOf storage runs
  attempts id := ∃ intent, Submits runs id intent
  proves intent inspected := ∃ entry transactionHash mode, entry.intent = intent ∧
    E.answers (.inspectTransaction entry transactionHash mode)
      (Except.ok inspected : Except JsError InspectedTransaction)
  confirms saleId deploymentId transactionHash blockHash logIndex buildId :=
    ∃ blockNumber observation, E.answers (.observeFunding saleId deploymentId transactionHash
      blockNumber blockHash logIndex)
        (Except.ok observation : Except JsError FundingObservation) ∧
      projectionOf observation = .reflected ∧ observation.projectionBuildId = buildId

section
variable {healthy traced : Prop} {E : Surroundings Answer Moment} {storage : LocalStorage}
  {runs : π → Run}

theorem rulesOf_fits (h : healthy → ∀ m, E.moments m → m.getItem = none ∧ m.setItem = none) :
    (rulesOf healthy traced E storage runs).Fits E where
  storage := h
  inspections _ entry transactionHash mode _ _ hanswer :=
    ⟨entry, transactionHash, mode, rfl, hanswer⟩
  observations _ _ _ _ blockNumber _ _ observation hanswer hreflected :=
    ⟨blockNumber, observation, hanswer, hreflected, rfl⟩

theorem intentOf_submit (h : Opens storage runs) {p : π} {context : SubmissionContext}
    {action : SubmissionAction} (htask : (runs p).task = .submit context action) :
    intentOf storage runs context.deploymentId (runs p).uuid =
      (preparing (runs p).uuid context action "").intent := by
  have hnone : row? storage context.deploymentId (runs p).uuid = none := by
    rw [row?, List.find?_eq_none]
    intro row hrow
    simpa using h.fresh p _ row hrow
  have hsubmits : Submits runs (runs p).uuid (preparing (runs p).uuid context action "").intent :=
    ⟨p, context, action, htask, rfl, rfl⟩
  obtain ⟨q, context', action', htask', hid, hintent⟩ :=
    Classical.epsilon_spec (p := Submits runs (runs p).uuid) ⟨_, hsubmits⟩
  have hpq : q = p := by
    by_contra hne
    exact h.ids q p hne hid
  subst hpq
  rw [htask] at htask'
  cases htask'
  rw [intentOf, hnone]
  exact hintent

theorem rulesOf_begins (h : Opens storage runs)
    (hreadable : healthy → ∀ deploymentId, Readable storage deploymentId)
    (hmarks : healthy → ∀ p, Rules.Unmarked (runs p) storage)
    (htraced : traced → ∀ deploymentId, ∀ row ∈ rows storage deploymentId,
      (rulesOf healthy traced E storage runs).Vouched row ∧
        (rulesOf healthy traced E storage runs).Confirmed row) :
    (rulesOf healthy traced E storage runs).Begins storage runs where
  shared :=
    { filed := h.filed
      sound := by
        intro deploymentId row hrow
        refine ⟨?_, fun ht => (htraced ht _ row hrow).1, fun ht => (htraced ht _ row hrow).2⟩
        have hfound := h.filed.row?_iff.mpr ⟨hrow, rfl⟩
        rw [← h.filed.own deploymentId row hrow] at hfound
        change row.intent = intentOf storage runs row.deploymentId row.clientOperationId
        rw [intentOf, hfound]
      started := by
        rintro deploymentId row hrow ⟨_, p, _, _, _, hid, _⟩
        exact absurd hid.symm (h.fresh p _ row hrow)
      readable := hreadable }
  attempts p context action htask :=
    ⟨⟨_, p, context, action, htask, rfl, rfl⟩, fun _ => (intentOf_submit h htask).symm⟩
  unmarked := hmarks

end

theorem intent_of_row {R : Rules} {storage : LocalStorage} (hshared : R.Shared storage)
    {row older : JournalEntry} (hsound : R.Sound row)
    (holder : row? storage row.deploymentId row.clientOperationId = some older) :
    row.intent = older.intent := by
  obtain ⟨hmem, hid⟩ := row?_some holder
  rw [hsound.intent, (hshared.sound _ _ hmem).intent, hid, hshared.filed.own _ _ hmem]

theorem sameImmutableIntent_of_intent {row : JournalEntry} (id createdAt : String)
    {context : SubmissionContext} {action : SubmissionAction}
    (h : row.intent = (preparing id context action createdAt).intent) :
    sameImmutableIntent row context action = true := by
  simp only [JournalEntry.intent, preparing, Intent.mk.injEq] at h
  simp [sameImmutableIntent, h]

theorem grown_of_history {keeps : JournalEntry → JournalEntry → Prop}
    (htrans : ∀ a b c, keeps a b → keeps b c → keeps a c)
    {step : Session π ι → Act π ι → Session π ι → Prop} {first last : Session π ι}
    {history : List (Transition (Session π ι) (Act π ι))} (h : IsHistory step first history last)
    (hgrown : ∀ t ∈ history, Grown keeps t.before.shared t.after.shared) :
    Grown keeps first.shared last.shared := by
  induction history generalizing first with
  | nil =>
    obtain rfl := h
    exact Grown.refl _
  | cons t rest ih =>
    obtain ⟨rfl, -, hrest⟩ := h
    exact (hgrown t List.mem_cons_self).trans htrans
      (ih hrest fun t' ht' => hgrown t' (List.mem_cons_of_mem _ ht'))

section
variable [DecidableEq π] [DecidableEq ι] {E : Surroundings Answer Moment} {tab : π → ι}
  {storage : LocalStorage} {runs : π → Run} {last : Session π ι}
  {history : List (Transition (Session π ι) (Act π ι))}

/-- Whatever storage and the ports do, and wherever tabs close: no operation ever
has two rows, and an act that writes replaces one row by the next revision of the
same operation, over a text that could be read as a whole. -/
theorem journal_compares_and_swaps (h : Opens storage runs)
    (hrun : IsHistory (Asynchrony.Step (browser E tab)) (Session.start storage runs) history last) :
    Filed last.shared ∧ ∀ t ∈ history, t.after.shared = t.before.shared ∨
      ∃ p row, t.label = .resume p ∧ Overwrites t.before.shared t.after.shared row ∧
        ∀ older, row? t.before.shared row.deploymentId row.clientOperationId = some older →
          row.intent = older.intent := by
  have hfits : (rulesOf False False E storage runs).Fits E := rulesOf_fits fun h => h.elim
  obtain ⟨hlast, -, hacts⟩ := Rules.acts hfits (rulesOf_begins h (fun h => h.elim)
    (fun h => h.elim) fun h => h.elim) h.ids hrun
  refine ⟨hlast.filed, fun t ht => ?_⟩
  have hact := hacts t ht
  rcases hact.writes with hsame | ⟨p, hlabel, hsame | ⟨row, hover, hsound, -, -⟩⟩
  · exact .inl hsame
  · exact .inl hsame
  · exact .inr ⟨p, row, hlabel, hover, fun older holder =>
      intent_of_row hact.before hsound holder⟩

/-- The wallet is asked only by a submission, and while local storage holds the
attempt's row: as it was written for the wallet request, or a later revision. -/
def AsksOverRow (runs : π → Run) (t : Transition (Session π ι) (Act π ι)) : Prop :=
  ∀ p next, t.label = .resume p → t.after.left p = .await .submit next →
    ∃ context action, (runs p).task = .submit context action ∧
      ∃ row ∈ rows t.after.shared context.deploymentId,
        row.clientOperationId = (runs p).uuid ∧ sameImmutableIntent row context action = true ∧
        ((∃ createdAt updatedAt startedAt, row =
          requested (runs p).uuid context action createdAt updatedAt startedAt) ∨
          2 < row.version)

/-- No run asks the wallet before its row is stored, whatever storage does. -/
theorem wallet_asked_over_row (h : Opens storage runs)
    (hrun : IsHistory (Asynchrony.Step (browser E tab)) (Session.start storage runs) history last) :
    ∀ t ∈ history, AsksOverRow runs t := by
  have hfits : (rulesOf False False E storage runs).Fits E := rulesOf_fits fun h => h.elim
  obtain ⟨-, -, hacts⟩ := Rules.acts hfits (rulesOf_begins h (fun h => h.elim)
    (fun h => h.elim) fun h => h.elim) h.ids hrun
  intro t ht p next hlabel hasks
  obtain ⟨context, action, createdAt, updatedAt, startedAt, htask, row, hrow, hid, hlater⟩ :=
    (hacts t ht).asks p next hlabel hasks
  refine ⟨context, action, htask, row, hrow, hid, ?_, ?_⟩
  · have hsound := (hacts t ht).after.sound _ _ hrow
    have hdep := (hacts t ht).after.filed.own _ _ hrow
    apply sameImmutableIntent_of_intent (runs p).uuid ""
    rw [hsound.intent, hid, hdep]
    exact intentOf_submit h htask
  · rcases hlater with heq | ⟨hlt, -⟩
    · exact .inl ⟨createdAt, updatedAt, startedAt, heq⟩
    · exact .inr hlt

/-- What a run may write: the first row of its own operation, or what it makes of
the very row that it replaces. -/
def Run.Writes (run : Run) (before after : LocalStorage) : Prop :=
  ∃ row, Overwrites before after row ∧
    match row? before row.deploymentId row.clientOperationId with
    | none => run.Starts row
    | some older => run.Replaces older row

/-- Where local storage works and its texts can be read, every write is made from
the very row that it replaces, and over a whole run no row loses its intent, its
original hash, or that it had a hash, a receipt, a nonce or a wallet outcome. -/
theorem healthy_journal_loses_nothing (h : Opens storage runs)
    (hstorage : ∀ m, E.moments m → m.getItem = none ∧ m.setItem = none)
    (hreadable : ∀ deploymentId, Readable storage deploymentId)
    (hmarks : ∀ p, Rules.Unmarked (runs p) storage)
    (hrun : IsHistory (Asynchrony.Step (browser E tab)) (Session.start storage runs) history last) :
    Grown Retains storage last.shared ∧
      ∀ t ∈ history, t.after.shared = t.before.shared ∨
        ∃ p, t.label = .resume p ∧ (runs p).Writes t.before.shared t.after.shared := by
  have hfits : (rulesOf True False E storage runs).Fits E := rulesOf_fits fun _ => hstorage
  obtain ⟨-, -, hacts⟩ := Rules.acts hfits (rulesOf_begins h (fun _ => hreadable)
    (fun _ => hmarks) fun h => h.elim) h.ids hrun
  have hwrites : ∀ t ∈ history, t.after.shared = t.before.shared ∨
      ∃ p, t.label = .resume p ∧ (runs p).Writes t.before.shared t.after.shared := by
    intro t ht
    rcases (hacts t ht).writes with hsame | ⟨p, hlabel, hsame | ⟨row, hover, -, hreplaces, hstarts⟩⟩
    · exact .inl hsame
    · exact .inl hsame
    · refine .inr ⟨p, hlabel, row, hover, ?_⟩
      split
      · exact hstarts trivial ‹_›
      · exact hreplaces trivial _ ‹_›
  refine ⟨grown_of_history (fun _ _ _ hab hbc => hab.trans hbc) hrun fun t ht => ?_, hwrites⟩
  rcases hwrites t ht with hsame | ⟨p, -, row, hover, hwritten⟩
  · rw [hsame]
    exact Grown.refl _
  · apply hover.grown (hacts t ht).before.filed
    intro older holder
    rw [holder] at hwritten
    exact hwritten.toRetains

end

/-- What a row says of its transaction was answered, and its receipt and event in
one single answer about a transaction for the row's intent. -/
structure Traced (E : Surroundings Answer Moment) (row : JournalEntry) : Prop where
  reverted : row.status = .includedReverted → ∃ entry transactionHash mode inclusion,
    entry.intent = row.intent ∧ E.answers (.inspectTransaction entry transactionHash mode)
      (Except.ok (.includedReverted inclusion) : Except JsError InspectedTransaction) ∧
    row.Shows inclusion ∧ row.receiptStatus = some .reverted
  success : row.status = .includedSuccess → ∃ entry transactionHash mode inclusion logIndex buyer
      amountWei, entry.intent = row.intent ∧
    E.answers (.inspectTransaction entry transactionHash mode)
      (Except.ok (.includedSuccess inclusion logIndex buyer amountWei) :
        Except JsError InspectedTransaction) ∧
    row.Shows inclusion ∧ row.receiptStatus = some .success ∧
    (row.action = "FUND_SALE" → ∃ l b a, logIndex = some l ∧ buyer = some b ∧
      amountWei = some a ∧ row.eventLogIndex = some l ∧ row.eventBuyer = some b ∧
        row.eventAmountWei = some (Nat.repr a))
  reflected : row.projectionObservation = some .reflected →
    ∃ saleId transactionHash blockNumber blockHash logIndex observation,
      row.saleId = some saleId ∧ row.projectionTransactionHash = some transactionHash ∧
      row.projectionBlockHash = some blockHash ∧ row.projectionLogIndex = some logIndex ∧
      row.projectionDeploymentId = some row.deploymentId ∧
      row.projectionBuildId = some observation.projectionBuildId ∧
      E.answers (.observeFunding saleId row.deploymentId transactionHash blockNumber blockHash
        logIndex) (Except.ok observation : Except JsError FundingObservation) ∧
      projectionOf observation = .reflected

section
variable {healthy traced : Prop} {E : Surroundings Answer Moment} {storage : LocalStorage}
  {runs : π → Run} {row : JournalEntry}

theorem traced_iff : Traced E row ↔ (rulesOf healthy traced E storage runs).Vouched row ∧
    (rulesOf healthy traced E storage runs).Confirmed row := by
  constructor
  · intro h
    refine ⟨⟨fun hstatus => ?_, fun hstatus => ?_⟩, fun hreflected => ?_⟩
    · obtain ⟨entry, hash, mode, inclusion, hintent, hanswer, hshows⟩ := h.reverted hstatus
      exact ⟨inclusion, ⟨entry, hash, mode, hintent, hanswer⟩, hshows⟩
    · obtain ⟨entry, hash, mode, inclusion, l, b, a, hintent, hanswer, hshows⟩ := h.success hstatus
      exact ⟨inclusion, l, b, a, ⟨entry, hash, mode, hintent, hanswer⟩, hshows⟩
    · obtain ⟨saleId, hash, number, block, log, observation, hsale, hhash, hblock, hlog,
        hdeployment, hbuild, hanswer, hprojection⟩ := h.reflected hreflected
      exact ⟨saleId, hash, block, log, _, hsale, hhash, hblock, hlog, hdeployment, hbuild, number,
        observation, hanswer, hprojection, rfl⟩
  · rintro ⟨hvouched, hconfirmed⟩
    refine ⟨fun hstatus => ?_, fun hstatus => ?_, fun hreflected => ?_⟩
    · obtain ⟨inclusion, ⟨entry, hash, mode, hintent, hanswer⟩, hshows⟩ :=
        hvouched.reverted hstatus
      exact ⟨entry, hash, mode, inclusion, hintent, hanswer, hshows⟩
    · obtain ⟨inclusion, l, b, a, ⟨entry, hash, mode, hintent, hanswer⟩, hshows⟩ :=
        hvouched.success hstatus
      exact ⟨entry, hash, mode, inclusion, l, b, a, hintent, hanswer, hshows⟩
    · obtain ⟨saleId, hash, block, log, _, hsale, hhash, hblock, hlog, hdeployment, hbuild, number,
        observation, hanswer, hprojection, rfl⟩ := hconfirmed hreflected
      exact ⟨saleId, hash, number, block, log, observation, hsale, hhash, hblock, hlog,
        hdeployment, hbuild, hanswer, hprojection⟩

end

section
variable [DecidableEq π] [DecidableEq ι] {E : Surroundings Answer Moment} {tab : π → ι}
  {storage : LocalStorage} {runs : π → Run} {last : Session π ι}
  {history : List (Transition (Session π ι) (Act π ι))}

/-- Rows whose evidence was answered are all that any run leads to, in local storage
and among the volatile entries of every tab, whatever storage does: no write mixes
the evidence of one answer with another's. -/
theorem evidence_of_one_inspection (h : Opens storage runs)
    (hrows : ∀ deploymentId, ∀ row ∈ rows storage deploymentId, Traced E row)
    (hrun : IsHistory (Asynchrony.Step (browser E tab)) (Session.start storage runs) history last) :
    (∀ deploymentId, ∀ row ∈ rows last.shared deploymentId, Traced E row) ∧
      ∀ i, ∀ entry ∈ (last.desk i).volatileEntries, Traced E entry := by
  obtain ⟨hshared, hmemory, -⟩ := Rules.acts (R := rulesOf False True E storage runs)
    (rulesOf_fits fun h => h.elim) (rulesOf_begins h (fun h => h.elim) (fun h => h.elim)
      fun _ deploymentId row hrow => traced_iff.mp (hrows deploymentId row hrow)) h.ids hrun
  have htraced : ∀ {entry}, (rulesOf False True E storage runs).Sound entry → Traced E entry :=
    fun hsound => traced_iff.mpr ⟨hsound.vouched trivial, hsound.confirmed trivial⟩
  exact ⟨fun _ row hrow => htraced (hshared.sound _ row hrow),
    fun i entry hentry => htraced ((hmemory i).sound entry hentry)⟩

/-- A funding that a tab's page shows as reflected was observed so, for the very
sale, deployment, transaction, block and event of the entry shown, and in its build. -/
theorem reflected_fundings_observed (h : Opens storage runs)
    (hrows : ∀ deploymentId, ∀ row ∈ rows storage deploymentId, Traced E row)
    (hrun : IsHistory (Asynchrony.Step (browser E tab)) (Session.start storage runs) history last)
    {i : ι} {m : Moment} {deploymentId : String} {entry : JournalEntry}
    (hentry : entry ∈ (load deploymentId m (last.shared, last.desk i)).1)
    (hshown : isProjectionCurrentlyReflected entry = true) :
    ∃ saleId inclusion logIndex blockNumber observation, entry.saleId = some saleId ∧
      entry.Shows inclusion ∧ entry.eventLogIndex = some logIndex ∧
      entry.projectionBuildId = some observation.projectionBuildId ∧
      E.answers (.observeFunding saleId entry.deploymentId inclusion.transactionHash blockNumber
        inclusion.blockHash logIndex)
        (Except.ok observation : Except JsError FundingObservation) ∧
      observation.coverage = .scanned ∧ observation.matched = true ∧
        observation.consistent = true := by
  obtain ⟨hdurable, hvolatile⟩ := evidence_of_one_inspection h hrows hrun
  have htraced : Traced E entry := by
    rcases mem_load deploymentId m (last.shared, last.desk i) hentry with hrow | ⟨hmem, -⟩
    · exact hdurable _ _ hrow
    · exact hvolatile i _ hmem
  simp only [isProjectionCurrentlyReflected, Bool.and_eq_true, decide_eq_true_eq] at hshown
  obtain ⟨⟨⟨⟨⟨⟨⟨hstatus, -⟩, hreflected⟩, hhash⟩, hblock⟩, hlog⟩, -⟩, -⟩ := hshown
  obtain ⟨_, _, _, inclusion, _, _, _, -, -, hshows, -⟩ := htraced.success hstatus
  obtain ⟨saleId, hash, number, block, log, observation, hsale, hhash', hblock', hlog', -, hbuild,
    hanswer, hprojection⟩ := htraced.reflected hreflected
  have htx : hash = inclusion.transactionHash := by
    have := (hhash'.symm.trans hhash).trans hshows.transactionHash
    exact Option.some_inj.mp this
  have hblockHash : block = inclusion.blockHash := by
    have := (hblock'.symm.trans hblock).trans hshows.blockHash
    exact Option.some_inj.mp this
  subst htx hblockHash
  refine ⟨saleId, inclusion, log, number, observation, hsale, hshows, hlog.symm.trans hlog',
    hbuild, hanswer, ?_⟩
  unfold projectionOf at hprojection
  split at hprojection
  · cases hprojection
  · cases hprojection
  · rename_i hcoverage
    split at hprojection
    · rename_i hboth
      exact ⟨hcoverage, hboth.1, hboth.2⟩
    · cases hprojection

end

def hexText (length : ℕ) (digit : Char) : String :=
  String.ofList ('0' :: 'x' :: List.replicate length digit)

def localContext : SubmissionContext := ⟨hexText 64 'd', 31337, hexText 40 '1', "1"⟩

def localAction (saleId : ℕ) : SubmissionAction :=
  ⟨"FUND_SALE", some saleId, none, 5, hexText 40 '2', "0x", none⟩

def localInclusion : Inclusion := ⟨hexText 64 'a', 7, hexText 64 'b', false⟩

def localRow : JournalEntry :=
  (returned (requested "operation" localContext (localAction 1) "2026-01-01T00:00:00Z"
    "2026-01-01T00:00:00Z" "2026-01-01T00:00:00Z") (hexText 64 'a') "2026-01-01T00:00:00Z").after 2

def localTexts : LocalStorage :=
  Function.update (fun _ => none) localContext.deploymentId (some (.array ([localRow].map .ok)))

/-- The wallet and the node answer, and what was funded is reflected. -/
def localPorts : ∀ r, Answer r
  | .simulate => Except.ok ()
  | .verifyBeforeSubmit => Except.ok ()
  | .submit => Except.ok (hexText 64 'c')
  | .readNonce _ => Except.ok 1
  | .inspectTransaction .. => Except.ok (InspectedTransaction.includedSuccess localInclusion (some 0)
      (some (hexText 40 '1')) (some 5))
  | .observeFinality .. => Except.ok FinalityProof.unfinalized
  | .observeFunding .. => Except.ok ⟨Coverage.scanned, true, true, "build"⟩
  | .intentLock => true
  | .observationLock => true
  | .called => ()
  | .writeLock => ()
  | .settled => ()

def localSurroundings : Surroundings Answer Moment where
  answers r answer := answer = localPorts r
  moments m := m.getItem = none ∧ m.setItem = none

/-- The one tab submits a funding of another sale while the other rechecks the first. -/
def localRuns : Bool → Run
  | true => ⟨"attempt", .submit localContext (localAction 2)⟩
  | false => ⟨"recheck", .recheck true localContext.deploymentId "operation" none .manual⟩

def localMoments (_ : ℕ) : Moment := ⟨"2026-01-01T00:00:01Z", true, none, none, fun _ => false⟩

def localPlayed :=
  plays (browser localSurroundings id) localPorts localMoments
    (List.replicate 24 [true, false]).flatten
    (Session.start localTexts localRuns : Session Bool Bool)

theorem localMoments_healthy (n : ℕ) : localSurroundings.moments (localMoments n) := ⟨rfl, rfl⟩

theorem localPlayed_isHistory : IsHistory (Asynchrony.Step (browser localSurroundings id))
    (Session.start localTexts localRuns) localPlayed.1 localPlayed.2 :=
  plays_isHistory (fun _ => rfl) localMoments_healthy _

def asksWallet (t : Transition (Session Bool Bool) (Act Bool Bool)) : Bool :=
  match t.label, t.after.left true with
  | .resume true, .await .submit _ => true
  | _, _ => false

theorem asksWallet_true {t : Transition (Session Bool Bool) (Act Bool Bool)}
    (h : asksWallet t = true) :
    ∃ next, t.label = .resume true ∧ t.after.left true = .await .submit next := by
  unfold asksWallet at h
  split at h
  · rename_i next hlabel hleft
    exact ⟨next, hlabel, hleft⟩
  · cases h

def progress (storage : LocalStorage) : List (String × ℕ × TransactionObservation) :=
  (rows storage localContext.deploymentId).map fun row =>
    (row.clientOperationId, row.version, row.status)

theorem localPlayed_outcome :
    progress localTexts = [("operation", 3, .submitted)] ∧
    progress localPlayed.2.shared =
      [("operation", 6, .includedSuccess), ("attempt", 4, .submitted)] ∧
    localPlayed.1.any asksWallet = true ∧
    (load localContext.deploymentId (localMoments 0)
      (localPlayed.2.shared, localPlayed.2.desk false)).1.any isProjectionCurrentlyReflected =
        true := by
  decide +kernel

theorem rows_localTexts (deploymentId : String) : rows localTexts deploymentId =
    if deploymentId = localContext.deploymentId then [localRow] else [] := by
  by_cases h : deploymentId = localContext.deploymentId
  · subst h
    simp only [rows, localTexts, Function.update_self, Option.map_some, Option.getD_some, if_true]
    exact entries_map_ok _
  · simp [rows, localTexts, h]

theorem mem_localTexts {deploymentId : String} {row : JournalEntry}
    (h : row ∈ rows localTexts deploymentId) :
    row = localRow ∧ deploymentId = localContext.deploymentId := by
  rw [rows_localTexts] at h
  split at h
  · rename_i hdep
    exact ⟨List.mem_singleton.mp h, hdep⟩
  · exact absurd h List.not_mem_nil

theorem localTexts_opens : Opens localTexts localRuns where
  filed :=
    { unique := by
        intro deploymentId
        rw [rows_localTexts]
        split <;> simp
      own := by
        intro deploymentId row hrow
        obtain ⟨rfl, rfl⟩ := mem_localTexts hrow
        rfl }
  ids p q hne := by
    cases p <;> cases q
    · exact absurd rfl hne
    · decide
    · decide
    · exact absurd rfl hne
  fresh p deploymentId row hrow := by
    obtain ⟨rfl, -⟩ := mem_localTexts hrow
    cases p <;> decide

theorem localTexts_traced : ∀ deploymentId, ∀ row ∈ rows localTexts deploymentId,
    Traced localSurroundings row := by
  intro deploymentId row hrow
  obtain ⟨rfl, -⟩ := mem_localTexts hrow
  exact ⟨fun h => (by cases h), fun h => (by cases h), fun h => (by cases h)⟩

theorem journal_compares_and_swaps_local :
    progress localPlayed.2.shared =
      [("operation", 6, .includedSuccess), ("attempt", 4, .submitted)] ∧
    Filed localPlayed.2.shared ∧ ∀ t ∈ localPlayed.1, t.after.shared = t.before.shared ∨
      ∃ p row, t.label = .resume p ∧ Overwrites t.before.shared t.after.shared row ∧
        ∀ older, row? t.before.shared row.deploymentId row.clientOperationId = some older →
          row.intent = older.intent :=
  ⟨localPlayed_outcome.2.1, journal_compares_and_swaps localTexts_opens localPlayed_isHistory⟩

theorem wallet_asked_over_row_local :
    (∃ t ∈ localPlayed.1, ∃ next, t.label = .resume true ∧
      t.after.left true = .await .submit next) ∧
    ∀ t ∈ localPlayed.1, AsksOverRow localRuns t := by
  refine ⟨?_, wallet_asked_over_row localTexts_opens localPlayed_isHistory⟩
  obtain ⟨t, ht, hasks⟩ := List.any_eq_true.mp localPlayed_outcome.2.2.1
  exact ⟨t, ht, asksWallet_true hasks⟩

theorem healthy_journal_loses_nothing_local :
    progress localTexts = [("operation", 3, .submitted)] ∧
    progress localPlayed.2.shared =
      [("operation", 6, .includedSuccess), ("attempt", 4, .submitted)] ∧
    Grown Retains localTexts localPlayed.2.shared ∧
      ∀ t ∈ localPlayed.1, t.after.shared = t.before.shared ∨
        ∃ p, t.label = .resume p ∧ (localRuns p).Writes t.before.shared t.after.shared := by
  refine ⟨localPlayed_outcome.1, localPlayed_outcome.2.1, healthy_journal_loses_nothing
    localTexts_opens (fun m hm => hm) ?_ ?_ localPlayed_isHistory⟩
  · intro deploymentId text htext
    by_cases h : deploymentId = localContext.deploymentId
    · subst h
      simp only [localTexts, Function.update_self, Option.mem_some_iff] at htext
      rw [← htext]
      exact issues_map_ok _ _
    · simp [localTexts, h] at htext
  · intro p deploymentId row hrow
    obtain ⟨rfl, -⟩ := mem_localTexts hrow
    exact fun h => by cases h

theorem evidence_of_one_inspection_local :
    progress localPlayed.2.shared =
      [("operation", 6, .includedSuccess), ("attempt", 4, .submitted)] ∧
    (∀ deploymentId, ∀ row ∈ rows localPlayed.2.shared deploymentId,
      Traced localSurroundings row) ∧
    ∀ i, ∀ entry ∈ (localPlayed.2.desk i).volatileEntries, Traced localSurroundings entry :=
  ⟨localPlayed_outcome.2.1,
    evidence_of_one_inspection localTexts_opens localTexts_traced localPlayed_isHistory⟩

theorem reflected_fundings_observed_local :
    ∃ entry ∈ (load localContext.deploymentId (localMoments 0)
      (localPlayed.2.shared, localPlayed.2.desk false)).1,
      ∃ saleId inclusion logIndex blockNumber observation, entry.saleId = some saleId ∧
        entry.Shows inclusion ∧ entry.eventLogIndex = some logIndex ∧
        entry.projectionBuildId = some observation.projectionBuildId ∧
        localSurroundings.answers (.observeFunding saleId entry.deploymentId
          inclusion.transactionHash blockNumber inclusion.blockHash logIndex)
          (Except.ok observation : Except JsError FundingObservation) ∧
        observation.coverage = .scanned ∧ observation.matched = true ∧
          observation.consistent = true := by
  obtain ⟨entry, hentry, hshown⟩ := List.any_eq_true.mp localPlayed_outcome.2.2.2
  exact ⟨entry, hentry, reflected_fundings_observed localTexts_opens localTexts_traced
    localPlayed_isHistory hentry hshown⟩

end MotorCove.Web
