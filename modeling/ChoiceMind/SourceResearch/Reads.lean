import ChoiceMind.SourceResearch.Fences

/-!
# Reads between the calls

The three queries of `readBatch` run outside a transaction, the last two in either order, so that
other transactions commit in between.
-/

namespace ChoiceMind.SourceResearch

set_option autoImplicit false

open Contracts SourceAccess Transition

/-- A read after its first query, with the rows of the others as they come. -/
structure Reader where
  batchId : String
  ownerUserId : String
  batch : Batch
  jobs : Option (List Job)
  results : Option (List ResearchResult)

/-- The view of a read that has all its rows. -/
def Reader.view (reader : Reader) : Option BatchView :=
  match reader.jobs, reader.results with
  | some jobs, some results => some (batchView reader.batch jobs results)
  | _, _ => none

/-- The second query. -/
def Reader.queryJobs (reader : Reader) (db : ResearchStore) : Reader :=
  { reader with jobs := some (db.queryJobs reader.batchId) }

/-- The third query. -/
def Reader.queryResults (reader : Reader) (db : ResearchStore) : Reader :=
  { reader with results := some (db.queryResults reader.batchId) }

structure ReadWorld where
  base : ResearchWorld
  readers : List Reader

def ReadWorld.initial : ReadWorld := ⟨.initial, []⟩

inductive ReadLabel
  | call (label : ResearchLabel)
  | queryBatch (batchId ownerUserId : String)
  | queryJobs (index : Nat)
  | queryResults (index : Nat)

inductive ReadReply
  | call (reply : ResearchReply)
  | absent
  | pending
  | read (batchId ownerUserId : String) (view : BatchView)
  deriving DecidableEq

/-- The reply to a query: the view, if it was the last one. -/
def Reader.reply (reader : Reader) : ReadReply :=
  match reader.view with
  | none => .pending
  | some view => .read reader.batchId reader.ownerUserId view

section Step
variable (env : ResearchEnvironment)

def readStep (world : ReadWorld) : ReadLabel → Option (ReadReply × ReadWorld)
  | .call label =>
    match researchStep env world.base label with
    | none => none
    | some (reply, base) => some (.call reply, { world with base })
  | .queryBatch batchId ownerUserId =>
    match world.base.db.queryBatch batchId ownerUserId with
    | none => some (.absent, world)
    | some batch => some (.pending,
      { world with readers := world.readers ++ [⟨batchId, ownerUserId, batch, none, none⟩] })
  | .queryJobs index =>
    match world.readers[index]? with
    | none => none
    | some reader =>
      if reader.jobs.isSome then none
      else
        let reader := reader.queryJobs world.base.db
        some (reader.reply, { world with readers := world.readers.set index reader })
  | .queryResults index =>
    match world.readers[index]? with
    | none => none
    | some reader =>
      if reader.results.isSome then none
      else
        let reader := reader.queryResults world.base.db
        some (reader.reply, { world with readers := world.readers.set index reader })

end Step

/-! ### What a view shows -/

abbrev ReadEntry := Entry ReadWorld ReadLabel ReadReply

/-- The tables around the steps of a run. -/
def stores (es : List ReadEntry) : List ResearchStore :=
  es.map (fun entry => entry.before.base.db) ++ es.map fun entry => entry.after.base.db

/-- A view shows one state of the tables, with the results of its completed jobs. -/
def ShowsOneState (es : List ReadEntry) (batchId ownerUserId : String) (view : BatchView) : Prop :=
  ∃ db ∈ stores es, db.view batchId ownerUserId = some view ∧
    ∀ job ∈ view.jobs, job.state = .completed →
      ∃ result ∈ db.results, result.jobId = job.jobId ∧ result.view ∈ view.results

/-- The columns of job rows that a view shows. -/
def shown (jobs : List Job) : List JobView × Int :=
  (jobs.map Job.view, (jobs.map Job.costUnits).sum)

/-- Between two tables, nothing changes that a read has already queried and that its view
shows. -/
structure Reader.Keeps (reader : Reader) (db db' : ResearchStore) : Prop where
  batch : db'.queryBatch reader.batchId reader.ownerUserId =
    db.queryBatch reader.batchId reader.ownerUserId
  jobs : reader.jobs.isSome = true →
    shown (db'.queryJobs reader.batchId) = shown (db.queryJobs reader.batchId)
  results : reader.results.isSome = true →
    (db'.queryResults reader.batchId).map ResearchResult.view =
      (db.queryResults reader.batchId).map ResearchResult.view

/-- No call changes what an unfinished read has already queried. -/
def ReadsKept (env : ResearchEnvironment) (world : ReadWorld) (label : ReadLabel) : Prop :=
  ∀ call reply base, label = .call call → researchStep env world.base call = some (reply, base) →
    ∀ reader ∈ world.readers, reader.view = none → reader.Keeps world.base.db base.db

/-! ### Rows that are still current -/

/-- What an unfinished read has queried is what it would read now. -/
structure Reader.Current (reader : Reader) (db : ResearchStore) : Prop where
  batch : db.queryBatch reader.batchId reader.ownerUserId = some reader.batch
  jobs : ∀ rows, reader.jobs = some rows → shown rows = shown (db.queryJobs reader.batchId)
  results : ∀ rows, reader.results = some rows → rows.map ResearchResult.view =
    (db.queryResults reader.batchId).map ResearchResult.view

section Views
variable {env : ResearchEnvironment} {db db' : ResearchStore} {reader : Reader}

/-- A view depends on the columns that it shows. -/
theorem batchView_congr {batch : Batch} {jobs jobs' : List Job}
    {results results' : List ResearchResult} (hjobs : shown jobs = shown jobs')
    (hresults : results.map ResearchResult.view = results'.map ResearchResult.view) :
    batchView batch jobs results = batchView batch jobs' results' := by
  obtain ⟨hviews, hcosts⟩ := Prod.mk.inj hjobs
  have hstates : jobs.map Job.state = jobs'.map Job.state := by
    have hmapped := congrArg (List.map JobView.state) hviews
    rw [List.map_map, List.map_map] at hmapped
    exact hmapped
  unfold batchView
  rw [hviews, hcosts, hstates, hresults]

theorem Reader.Current.view (h : reader.Current db) {view : BatchView}
    (hview : reader.view = some view) :
    db.view reader.batchId reader.ownerUserId = some view := by
  unfold Reader.view at hview
  split at hview
  · rename_i jobs results hjobs hresults
    cases hview
    unfold ResearchStore.view
    rw [h.batch, Option.map_some, batchView_congr (h.jobs jobs hjobs) (h.results results hresults)]
  · cases hview

theorem Reader.Current.keep (h : reader.Current db) (hkeeps : reader.Keeps db db') :
    reader.Current db' where
  batch := hkeeps.batch.trans h.batch
  jobs := fun rows hrows =>
    (h.jobs rows hrows).trans (hkeeps.jobs (Option.isSome_of_eq_some hrows)).symm
  results := fun rows hrows =>
    (h.results rows hrows).trans (hkeeps.results (Option.isSome_of_eq_some hrows)).symm

theorem Reader.Current.queryJobs (h : reader.Current db) : (reader.queryJobs db).Current db where
  batch := h.batch
  jobs := fun rows hrows => by
    cases hrows
    rfl
  results := h.results

theorem Reader.Current.queryResults (h : reader.Current db) :
    (reader.queryResults db).Current db where
  batch := h.batch
  jobs := h.jobs
  results := fun rows hrows => by
    cases hrows
    rfl

theorem mem_queryJobs {batchId : String} {job : Job} :
    job ∈ db.queryJobs batchId ↔ job ∈ db.jobs ∧ job.batchId = batchId := by
  unfold ResearchStore.queryJobs
  rw [List.mem_insertionSort, Table.mem_select, decide_eq_true_eq]

theorem mem_queryResults {batchId : String} {result : ResearchResult} :
    result ∈ db.queryResults batchId ↔ result ∈ db.results ∧ result.batchId = batchId := by
  unfold ResearchStore.queryResults
  rw [List.mem_insertionSort, Table.mem_select, decide_eq_true_eq]

/-- The view of one state has the results of its completed jobs. -/
theorem view_completed {world : ResearchWorld} (h : Consistent env world)
    {batchId ownerUserId : String} {view : BatchView}
    (hview : world.db.view batchId ownerUserId = some view) :
    ∀ job ∈ view.jobs, job.state = .completed →
      ∃ result ∈ world.db.results, result.jobId = job.jobId ∧ result.view ∈ view.results := by
  intro shownJob hshown hcompleted
  unfold ResearchStore.view at hview
  rw [Option.map_eq_some_iff] at hview
  obtain ⟨batch, -, rfl⟩ := hview
  obtain ⟨job, hjob, rfl⟩ := List.mem_map.mp hshown
  obtain ⟨hmem, hbatch⟩ := mem_queryJobs.mp hjob
  have hfound := Table.find?_of_mem hmem
  have hone : (world.db.resultsOf job.jobId).length = 1 := by
    rw [h.results, hfound]
    unfold resultCount
    exact if_pos (decide_eq_true hcompleted)
  obtain ⟨result, hresult⟩ := List.length_eq_one_iff.mp hone
  obtain ⟨hrow, hid⟩ := Table.mem_select.mp (hresult ▸ List.mem_singleton_self result :
    result ∈ world.db.resultsOf job.jobId)
  have hjobId := of_decide_eq_true hid
  obtain ⟨owner, howner, hsame⟩ := h.linked.results_job result hrow
  rw [hjobId, hfound] at howner
  cases howner
  exact ⟨result, hrow, hjobId, List.mem_map_of_mem (mem_queryResults.mpr ⟨hrow, hsame ▸ hbatch⟩)⟩

end Views

/-! ### Runs -/

/-- The unfinished reads are current, and the tables are those of a run. -/
structure Reading (env : ResearchEnvironment) (world : ReadWorld) : Prop where
  base : Consistent env world.base
  current : ∀ reader ∈ world.readers, reader.view = none → reader.Current world.base.db

section Runs
variable {env : ResearchEnvironment} {world world' : ReadWorld} {label : ReadLabel}
  {reply : ReadReply}

theorem reading_initial : Reading env .initial :=
  ⟨consistent_initial, fun _ hreader => nomatch hreader⟩

/-- A query of one read leaves the others. -/
theorem Reading.of_set (h : Reading env world) {index : Nat} {reader : Reader}
    (hcurrent : reader.Current world.base.db) :
    Reading env { world with readers := world.readers.set index reader } where
  base := h.base
  current := fun other hother hview => by
    rcases List.mem_or_eq_of_mem_set hother with hmem | rfl
    · exact h.current other hmem hview
    · exact hcurrent

theorem queryJobs_eq_some {index : Nat}
    (h : readStep env world (.queryJobs index) = some (reply, world')) :
    ∃ reader, world.readers[index]? = some reader ∧ reader.jobs = none ∧
      reply = (reader.queryJobs world.base.db).reply ∧
      world' = { world with
        readers := world.readers.set index (reader.queryJobs world.base.db) } := by
  unfold readStep at h
  dsimp only at h
  split at h
  · cases h
  · rename_i reader hreader
    split at h
    · cases h
    · rename_i hjobs
      cases h
      exact ⟨reader, hreader, Option.not_isSome_iff_eq_none.mp hjobs, rfl, rfl⟩

theorem queryResults_eq_some {index : Nat}
    (h : readStep env world (.queryResults index) = some (reply, world')) :
    ∃ reader, world.readers[index]? = some reader ∧ reader.results = none ∧
      reply = (reader.queryResults world.base.db).reply ∧
      world' = { world with
        readers := world.readers.set index (reader.queryResults world.base.db) } := by
  unfold readStep at h
  dsimp only at h
  split at h
  · cases h
  · rename_i reader hreader
    split at h
    · cases h
    · rename_i hresults
      cases h
      exact ⟨reader, hreader, Option.not_isSome_iff_eq_none.mp hresults, rfl, rfl⟩

theorem reply_eq_read {reader : Reader} {batchId ownerUserId : String} {view : BatchView}
    (h : reader.reply = .read batchId ownerUserId view) :
    reader.view = some view ∧ reader.batchId = batchId ∧ reader.ownerUserId = ownerUserId := by
  unfold Reader.reply at h
  split at h
  · cases h
  · rename_i hview
    cases h
    exact ⟨hview, rfl, rfl⟩

theorem Reading.unread (h : Reading env world) {index : Nat} {reader : Reader}
    (hreader : world.readers[index]? = some reader)
    (hrows : reader.jobs = none ∨ reader.results = none) : reader.Current world.base.db := by
  refine h.current reader (List.mem_of_getElem? hreader) ?_
  unfold Reader.view
  rcases hrows with hjobs | hresults
  · rw [hjobs]
  · rw [hresults]
    split
    · rename_i hsome
      cases hsome
    · rfl

theorem reading_step (h : Reading env world) (hkept : ReadsKept env world label)
    (hstep : readStep env world label = some (reply, world')) : Reading env world' := by
  cases label with
  | call call =>
    unfold readStep at hstep
    dsimp only at hstep
    split at hstep
    · cases hstep
    · rename_i base hcall
      cases hstep
      exact ⟨consistent_step h.base hcall, fun reader hreader hview =>
        (h.current reader hreader hview).keep (hkept call _ base rfl hcall reader hreader hview)⟩
  | queryBatch batchId ownerUserId =>
    unfold readStep at hstep
    dsimp only at hstep
    split at hstep
    · cases hstep
      exact h
    · rename_i batch hbatch
      cases hstep
      refine ⟨h.base, fun reader hreader hview => ?_⟩
      rcases List.mem_append.mp hreader with hold | hnew
      · exact h.current reader hold hview
      · cases List.mem_singleton.mp hnew
        exact ⟨hbatch, nofun, nofun⟩
  | queryJobs index =>
    obtain ⟨reader, hreader, hjobs, -, rfl⟩ := queryJobs_eq_some hstep
    exact h.of_set (h.unread hreader (.inl hjobs)).queryJobs
  | queryResults index =>
    obtain ⟨reader, hreader, hresults, -, rfl⟩ := queryResults_eq_some hstep
    exact h.of_set (h.unread hreader (.inr hresults)).queryResults

/-- The view that a query returns is the one of the present state. -/
theorem read_view (h : Reading env world)
    (hstep : readStep env world label = some (reply, world')) {batchId ownerUserId : String}
    {view : BatchView} (hreply : reply = .read batchId ownerUserId view) :
    world.base.db.view batchId ownerUserId = some view := by
  cases label with
  | call call =>
    unfold readStep at hstep
    dsimp only at hstep
    split at hstep
    · cases hstep
    · cases hstep
      cases hreply
  | queryBatch batchId' ownerUserId' =>
    unfold readStep at hstep
    dsimp only at hstep
    split at hstep
    · cases hstep
      cases hreply
    · cases hstep
      cases hreply
  | queryJobs index =>
    obtain ⟨reader, hreader, hjobs, hshows, -⟩ := queryJobs_eq_some hstep
    obtain ⟨hview, rfl, rfl⟩ := reply_eq_read (hshows.symm.trans hreply)
    exact (h.unread hreader (.inl hjobs)).queryJobs.view hview
  | queryResults index =>
    obtain ⟨reader, hreader, hresults, hshows, -⟩ := queryResults_eq_some hstep
    obtain ⟨hview, rfl, rfl⟩ := reply_eq_read (hshows.symm.trans hreply)
    exact (h.unread hreader (.inr hresults)).queryResults.view hview

/-- In a run in which no call changes what an unfinished read has queried, every view shows one
state. -/
theorem views_consistent {es : List ReadEntry} (hrun : Run (readStep env) .initial es world)
    (hkept : Guarded (ReadsKept env) es) : ∀ entry ∈ es, ∀ batchId ownerUserId view,
      entry.reply = .read batchId ownerUserId view → ShowsOneState es batchId ownerUserId view := by
  intro entry hentry batchId ownerUserId view hreply
  have hbefore : Reading env entry.before :=
    (hrun.invariant_entry reading_step hkept reading_initial hentry).1
  have hview := read_view hbefore (hrun.entry_step hentry) hreply
  refine ⟨entry.before.base.db, ?_, hview, view_completed hbefore.base hview⟩
  exact List.mem_append_left _ (List.mem_map_of_mem hentry)

end Runs

/-- The completed batch without its result. -/
def tornView : BatchView :=
  ⟨"batch", "owner", "task", "query", .completed, 3,
    [⟨sampleJobId, "source", "account", .completed, none⟩], [], 0, 0⟩

/-- A read after the job completed, and a call after the read. -/
def sampleRead : List ReadLabel :=
  [.call (.createBatch sampleBatch 0), .call (.claimNext "worker" 10 1 fun _ => false),
   .call (.beginComplete (sampleClaim "worker" 1) sampleEvidence),
   .call (.settle (sampleClaim "worker" 1) sampleEvidence 2 2), .queryBatch "batch" "owner",
   .queryResults 0, .queryJobs 0, .call (.purge "owner")]

/-- Every read before a call is finished. -/
def readsDone (entry : ReadEntry) : Bool :=
  entry.before.readers.all (fun reader => reader.view.isSome) ||
    match entry.label with
    | .call _ => false
    | _ => true

theorem readsKept_of_done {env : ResearchEnvironment} {entry : ReadEntry}
    (h : readsDone entry = true) : ReadsKept env entry.before entry.label := by
  intro call reply base hlabel _ reader hreader hview
  unfold readsDone at h
  rw [hlabel, Bool.or_false, List.all_eq_true] at h
  have hdone := h reader hreader
  rw [hview] at hdone
  cases hdone

theorem views_consistent_sample : ∃ es world, Run (readStep sampleResearch) .initial es world ∧
    es.map Entry.label = sampleRead ∧ Guarded (ReadsKept sampleResearch) es ∧
    ∃ entry ∈ es, ∃ view, entry.reply = .read "batch" "owner" view ∧ view.costUnits = 3 ∧
      ShowsOneState es "batch" "owner" view := by
  have hexec : (exec (readStep sampleResearch) .initial sampleRead).any
      (fun result => result.1.all readsDone && result.1.any fun entry =>
        entry.reply = .read "batch" "owner" { tornView with
          results := [⟨"result", "evidence", "summary"⟩], updatedAt := 2 }) = true := by
    decide +kernel
  obtain ⟨es, world, hrun, hlabels, hcheck⟩ := exists_labelled_run_of_exec hexec
  rw [Bool.and_eq_true, List.all_eq_true, List.any_eq_true] at hcheck
  obtain ⟨hdone, entry, hentry, hreply⟩ := hcheck
  have hkept : Guarded (ReadsKept sampleResearch) es := fun e he => readsKept_of_done (hdone e he)
  exact ⟨es, world, hrun, hlabels, hkept, entry, hentry, _, of_decide_eq_true hreply, rfl,
    views_consistent hrun hkept entry hentry _ _ _ (of_decide_eq_true hreply)⟩

/-- Its results are queried before the job completes, and its jobs afterwards. -/
def sampleTornRead : List ReadLabel :=
  [.call (.createBatch sampleBatch 0), .call (.claimNext "worker" 10 1 fun _ => false),
   .queryBatch "batch" "owner", .queryResults 0,
   .call (.beginComplete (sampleClaim "worker" 1) sampleEvidence),
   .call (.settle (sampleClaim "worker" 1) sampleEvidence 2 2), .queryJobs 0]

/-- A read returns the torn view, and no state of the run has it. -/
def isTorn (es : List ReadEntry) : Bool :=
  (es.any fun entry => entry.reply = .read "batch" "owner" tornView) &&
    (stores es).all fun db => db.view "batch" "owner" ≠ some tornView

theorem view_torn : ∃ es world, Run (readStep sampleResearch) .initial es world ∧
    es.map Entry.label = sampleTornRead ∧
    ∃ entry ∈ es, entry.reply = .read "batch" "owner" tornView ∧
      ¬ ShowsOneState es "batch" "owner" tornView := by
  have hexec : (exec (readStep sampleResearch) .initial sampleTornRead).any
      (fun result => isTorn result.1) = true := by decide +kernel
  obtain ⟨es, world, hrun, hlabels, htorn⟩ := exists_labelled_run_of_exec hexec
  unfold isTorn at htorn
  rw [Bool.and_eq_true, List.any_eq_true, List.all_eq_true] at htorn
  obtain ⟨⟨entry, hentry, hreply⟩, hnone⟩ := htorn
  refine ⟨es, world, hrun, hlabels, entry, hentry, of_decide_eq_true hreply, ?_⟩
  rintro ⟨db, hdb, hview, -⟩
  exact of_decide_eq_true (hnone db hdb) hview

end ChoiceMind.SourceResearch
