import SourceAtlas.Command.Session
import SourceAtlas.Proofs.Index.Lifecycle
import SourceAtlas.Proofs.Index.Staleness

/-!
# When commands refresh an index

A query refreshes an index that is older than its settings allow. The settings
give seconds, and the index compares milliseconds as signed words: a time whose
milliseconds need the sign bit is read as a negative one, which every index
exceeds. For a time below that (`OnClock`) the comparison is exact: a longer time
never makes an index stale, a refresh builds only an index that is older, and the
index it returns is fresh.
-/

namespace SourceAtlas

/-! ## The outcome of a session -/

namespace Session

variable {σ α β : Type} {workspace after : Workspace σ}

/-- What a session returns in a workspace, and the workspace that it leaves. -/
def outcome (session : Session σ α) (workspace : Workspace σ) :
    Except CommandError α × Workspace σ :=
  session.run workspace

/-- A session of two parts returns when the first part does, and the second after it. -/
theorem outcome_bind_eq_ok_iff {first : Session σ α} {next : α → Session σ β} {value : β} :
    (first >>= next).outcome workspace = (.ok value, after) ↔
      ∃ found between, first.outcome workspace = (.ok found, between) ∧
        (next found).outcome between = (.ok value, after) := by
  have parts : (first >>= next).outcome workspace =
      match first.outcome workspace with
      | (.ok found, between) => (next found).outcome between
      | (.error error, between) => (.error error, between) := by
    change (match first.outcome workspace with
      | (result, between) => ExceptT.bindCont next result between) = _
    rcases first.outcome workspace with ⟨_ | _, _⟩ <;> rfl
  rw [parts]
  rcases first.outcome workspace with ⟨_ | _, _⟩ <;> simp

end Session

/-! ## The age of a snapshot -/

/-- The snapshot was taken more than so many seconds before. -/
def Snapshot.OlderThan (snapshot : Snapshot) (seconds : Nat) (now : Int) : Prop :=
  1000 * (seconds : Int) < now - snapshot.capturedAt

/-- A snapshot older than some time is older than every shorter time. -/
theorem Snapshot.OlderThan.mono {snapshot : Snapshot} {shorter longer : Nat} {now : Int}
    (older : snapshot.OlderThan longer now) (ordered : shorter ≤ longer) :
    snapshot.OlderThan shorter now := by
  rw [OlderThan] at older ⊢
  omega

/-- At the moment it is taken a snapshot is not old. -/
theorem Snapshot.not_olderThan_capturedAt {snapshot : Snapshot} {seconds : Nat} :
    ¬snapshot.OlderThan seconds snapshot.capturedAt := by
  rw [OlderThan]
  omega

namespace Index

variable {σ : Type} {index : Index σ} {snapshot : Snapshot} {settings : IndexerSettings}
  {seconds : Nat} {now : Int}

/-- A clock shows so many seconds: their milliseconds do not need the sign bit of a word. -/
def OnClock (seconds : Nat) : Prop := 1000 * seconds < Word64.half

/-- A number that is not negative and does not need the sign bit of a word is read as it is. -/
theorem bmod_word_eq_self {number : Int} (natural : 0 ≤ number) (inRange : number < Word64.half) :
    Int.bmod number Word64.count = number := by
  simp only [Word64.half] at inRange
  apply Int.bmod_eq_of_le <;> simp only [Word64.count] <;> omega

/-- Where the product of seconds and milliseconds fits a signed word, it is the exact one. -/
theorem freshFor_of_onClock (onClock : OnClock settings.ttlSeconds) :
    freshFor settings = 1000 * settings.ttlSeconds := by
  unfold freshFor
  have inRange := onClock
  simp only [OnClock, Word64.half] at inRange
  have least : min (settings.ttlSeconds * 1000) (Word64.count - 1) =
      1000 * settings.ttlSeconds := by
    simp only [Word64.count]
    omega
  rw [least, bmod_word_eq_self (Int.natCast_nonneg _) (Int.ofNat_lt.mpr onClock)]
  exact Int.natCast_mul 1000 settings.ttlSeconds

/-- Where the product does not fit a signed word, the conversion makes it negative. -/
theorem freshFor_neg (offClock : ¬OnClock settings.ttlSeconds) : freshFor settings < 0 := by
  unfold freshFor
  simp only [OnClock, Word64.half] at offClock
  -- The product is cut off at the largest word, which has the sign bit too.
  have low : Word64.half ≤ min (settings.ttlSeconds * 1000) (Word64.count - 1) := by
    simp only [Word64.count, Word64.half]
    omega
  have high : min (settings.ttlSeconds * 1000) (Word64.count - 1) < Word64.count := by
    simp only [Word64.count]
    omega
  rw [Int.bmod_def]
  simp only [Word64.count, Word64.half] at low high ⊢
  split <;> omega

/-- The published snapshot was taken at a time that the clock has not gone back behind. -/
structure Dated (index : Index σ) (snapshot : Snapshot) (now : Int) : Prop where
  published : index.published.snapshot = some snapshot
  begun : 0 ≤ snapshot.capturedAt
  passed : snapshot.capturedAt ≤ now
  inRange : now < Word64.half

/-- An index is stale when it is older than its settings allow, and always when no clock shows the
time that they allow. -/
theorem Dated.isStale_iff (dated : index.Dated snapshot now) :
    index.isStale now = true ↔
      snapshot.OlderThan index.settings.indexer.ttlSeconds now ∨
        ¬OnClock index.settings.indexer.ttlSeconds := by
  have begun := dated.begun
  have passed := dated.passed
  have inRange := dated.inRange
  simp only [Word64.half] at inRange
  have age : Int.bmod (now - snapshot.capturedAt) Word64.count = now - snapshot.capturedAt :=
    bmod_word_eq_self (by omega) (by simp only [Word64.half]; omega)
  simp only [isStale, dated.published, age, decide_eq_true_eq, Snapshot.OlderThan]
  by_cases onClock : OnClock index.settings.indexer.ttlSeconds
  · rw [freshFor_of_onClock onClock]
    simp [onClock]
  · have negative := freshFor_neg onClock
    exact iff_of_true (by omega) (.inr onClock)

/-- No snapshot is older than a time that no clock shows. -/
theorem Dated.not_olderThan (dated : index.Dated snapshot now) (offClock : ¬OnClock seconds) :
    ¬snapshot.OlderThan seconds now := by
  have begun := dated.begun
  have inRange := dated.inRange
  simp only [OnClock, Word64.half] at offClock inRange
  rw [Snapshot.OlderThan]
  omega

/-- The index under settings that let it count as fresh for so many seconds. -/
def lasting (index : Index σ) (seconds : Nat) : Index σ :=
  { index with
    settings :=
      { index.settings with indexer := { index.settings.indexer with ttlSeconds := seconds } } }

/-- Another time to live leaves the date of the published snapshot. -/
theorem Dated.lasting (dated : index.Dated snapshot now) (seconds : Nat) :
    (index.lasting seconds).Dated snapshot now where
  published := dated.published
  begun := dated.begun
  passed := dated.passed
  inRange := dated.inRange

end Index

/-! ## Building again -/

namespace Session

variable {σ : Type} {around : Surroundings σ} {index built : Index σ}
  {workspace after : Workspace σ} {now : Int}

/-- Build an index with the provider of the settings, and save it. -/
def rebuild (around : Surroundings σ) (index : Index σ) (now : Int) : Session σ (Index σ) := do
  let index ← attachProvider around index
  let (index, _) ← build index {} now
  save index now
  return index

/-- A refresh rebuilds a stale index and hands back any other one. -/
theorem refresh_eq (around : Surroundings σ) (index : Index σ) (now : Int) :
    refresh around index now =
      if index.isStale now then rebuild around index now else pure index := rfl

/-- Only the provider of an index is attached. -/
theorem exists_provider_of_attachProvider
    (attached : (attachProvider around index).outcome workspace = (.ok built, after)) :
    ∃ provider, built = { index with provider } := by
  rw [attachProvider] at attached
  split at attached
  · cases attached
    exact ⟨index.provider, rfl⟩
  · split at attached
    · next provider _ =>
      cases attached
      exact ⟨some provider, rfl⟩
    · cases attached

/-- The outcome of the build step is the build's own, with its errors wrapped. -/
theorem outcome_build (index : Index σ) (options : BuildOptions) (now : Int)
    (workspace : Workspace σ) :
    (build index options now).outcome workspace =
      (((index.build workspace options now).result.mapError .index).map fun stats =>
          ((index.build workspace options now).index, stats),
        (index.build workspace options now).workspace) := by
  change (ofIndex (index.build workspace options now).result >>= fun stats =>
      pure ((index.build workspace options now).index, stats) : Session σ _).outcome
    (index.build workspace options now).workspace = _
  cases (index.build workspace options now).result <;> rfl

/-- An index has been built again: its snapshot is of now, and its phases were announced. -/
structure Renewed (index built : Index σ) (now : Int) : Prop where
  captured : ∃ snapshot, built.published.snapshot = some snapshot ∧ snapshot.capturedAt = now
  settings : built.settings = index.settings
  announcements : built.announcements = index.announcements + 2

/-- A build that returns renews the index. -/
theorem renewed_of_build {stats : PassStats}
    (returned : (build index {} now).outcome workspace = (.ok (built, stats), after)) :
    Renewed index built now := by
  rw [outcome_build] at returned
  cases captured :
    Snapshot.capture workspace.files index.root index.captureOptions now with
  | error error =>
    have failed : (index.build workspace {} now).result = .error error := by
      simp only [Index.build, captured, Index.abandon]
    rw [failed] at returned
    cases returned
  | ok snapshot =>
    obtain ⟨succeeds, made⟩ := Index.outcome_refresh captured
    have result : (index.build workspace {} now).result = _ := succeeds
    have next : (index.build workspace {} now).index = _ := made
    rw [result, next] at returned
    cases returned
    refine ⟨⟨snapshot, PassContext.snapshot_apply, ?_⟩, rfl, rfl⟩
    rw [Snapshot.eq_ofFiles_of_capture captured]
    rfl

/-- A rebuild that returns renews the index. -/
theorem renewed_of_rebuild
    (returned : (rebuild around index now).outcome workspace = (.ok built, after)) :
    Renewed index built now := by
  obtain ⟨attached, ready, attaches, builds⟩ := outcome_bind_eq_ok_iff.mp returned
  obtain ⟨provider, rfl⟩ := exists_provider_of_attachProvider attaches
  obtain ⟨⟨made, stats⟩, between, makes, saves⟩ := outcome_bind_eq_ok_iff.mp builds
  obtain ⟨-, saved, -, returns⟩ := outcome_bind_eq_ok_iff.mp saves
  cases returns
  obtain ⟨captured, settings, announcements⟩ := renewed_of_build makes
  exact ⟨captured, settings, announcements⟩

/-- A refresh that is due builds the index again, and no other does. -/
theorem refresh_eq_rebuild_iff (around : Surroundings σ) (index : Index σ) (now : Int)
    (workspace : Workspace σ) :
    (refresh around index now).outcome workspace = (rebuild around index now).outcome workspace ↔
      index.isStale now = true := by
  rw [refresh_eq]
  cases stale : index.isStale now with
  | true => exact iff_of_true rfl rfl
  | false =>
    refine iff_of_false (fun same => ?_) Bool.false_ne_true
    -- An index that was built again is another one: it has announced more.
    have returned : (rebuild around index now).outcome workspace = (.ok index, workspace) :=
      same.symm
    have announced := (renewed_of_rebuild returned).announcements
    omega

/-- A refreshed index is fresh, however old it was. -/
theorem isStale_of_refresh (begun : 0 ≤ now) (inRange : now < Word64.half)
    (onClock : Index.OnClock index.settings.indexer.ttlSeconds)
    (returned : (refresh around index now).outcome workspace = (.ok built, after)) :
    built.isStale now = false := by
  rw [refresh_eq] at returned
  cases stale : index.isStale now with
  | false =>
    rw [stale] at returned
    cases returned
    exact stale
  | true =>
    rw [stale] at returned
    obtain ⟨⟨snapshot, published, rfl⟩, settings, -⟩ := renewed_of_rebuild returned
    have dated : built.Dated snapshot snapshot.capturedAt := ⟨published, begun, le_rfl, inRange⟩
    rw [← Bool.not_eq_true, dated.isStale_iff, settings, not_or, not_not]
    exact ⟨Snapshot.not_olderThan_capturedAt, onClock⟩

end Session

namespace Index

variable {σ : Type} {index : Index σ} {snapshot : Snapshot} {now : Int}

/-- For a time on the clock, and for no other, an index is stale exactly when it is older than that,
stays fresh if a shorter time keeps it fresh, and is built again for its age alone. -/
theorem Dated.stale_exact_iff (dated : index.Dated snapshot now) {shorter longer : Nat}
    (ordered : shorter ≤ longer) (around : Surroundings σ) (workspace : Workspace σ) :
    (((index.lasting longer).isStale now = true ↔ snapshot.OlderThan longer now) ↔
        OnClock longer) ∧
      (((index.lasting shorter).isStale now = false →
          (index.lasting longer).isStale now = false) ↔
        snapshot.OlderThan shorter now ∨ ¬OnClock shorter ∨ OnClock longer) ∧
      (((Session.refresh around (index.lasting longer) now).outcome workspace =
            (Session.rebuild around (index.lasting longer) now).outcome workspace →
          snapshot.OlderThan longer now) ↔ OnClock longer) := by
  have short : (index.lasting shorter).isStale now = true ↔
      snapshot.OlderThan shorter now ∨ ¬OnClock shorter := (dated.lasting shorter).isStale_iff
  have long : (index.lasting longer).isStale now = true ↔
      snapshot.OlderThan longer now ∨ ¬OnClock longer := (dated.lasting longer).isStale_iff
  rw [Session.refresh_eq_rebuild_iff]
  by_cases onClock : OnClock longer
  · have exact : (index.lasting longer).isStale now = true ↔ snapshot.OlderThan longer now :=
      long.trans (or_iff_left (not_not.mpr onClock))
    refine ⟨iff_of_true exact onClock, iff_of_true (fun fresh => ?_) (.inr (.inr onClock)),
      iff_of_true exact.mp onClock⟩
    rw [← Bool.not_eq_true] at fresh ⊢
    exact fun stale => fresh (short.mpr (.inl ((exact.mp stale).mono ordered)))
  · have stale : (index.lasting longer).isStale now = true := long.mpr (.inr onClock)
    have younger : ¬snapshot.OlderThan longer now := dated.not_olderThan onClock
    refine ⟨iff_of_false (fun exact => younger (exact.mp stale)) onClock, ?_,
      iff_of_false (fun older => younger (older stale)) onClock⟩
    rw [stale, ← Bool.not_eq_true, short]
    simp [onClock, imp_iff_not_or]

/-! ## An index that lasts, and one that lasts too long -/

/-- Surroundings without any embedding. -/
def wordSurroundings : Surroundings Unit where
  root := "/p"
  environment _ := none
  service _ _ state := (.ok [], state)
  localModel _ _ := .error { reason := "no model" }
  parser := wordParser

/-- The built index of the fixtures is dated at its first moment. -/
theorem dated_builtIndex (now : Int) (passed : 1 ≤ now) (inRange : now < Word64.half) :
    ∃ snapshot, builtIndex.Dated snapshot now ∧ snapshot.capturedAt = 1 := by
  have taken : builtIndex.published.snapshot.map Snapshot.capturedAt = some 1 := by decide +kernel
  obtain ⟨snapshot, published, first⟩ := Option.map_eq_some_iff.mp taken
  exact ⟨snapshot, ⟨published, by omega, by omega, inRange⟩, first⟩

/-- After four hundred seconds the index is fresh for the longest time on the clock as it is for
these seconds, and is not built again. -/
theorem builtIndex_stale_exact :
    ∃ snapshot, builtIndex.Dated snapshot 400001 ∧ 400 ≤ 9223372036854775 ∧
      (builtIndex.lasting 400).isStale 400001 = false ∧
      (builtIndex.lasting 9223372036854775).isStale 400001 = false ∧
      (Session.refresh wordSurroundings (builtIndex.lasting 9223372036854775) 400001).outcome
          firstBuild.workspace ≠
        (Session.rebuild wordSurroundings (builtIndex.lasting 9223372036854775) 400001).outcome
          firstBuild.workspace := by
  obtain ⟨snapshot, dated, first⟩ := dated_builtIndex 400001 (by decide) (by decide)
  have ordered : 400 ≤ 9223372036854775 := by decide
  have onClock : OnClock 9223372036854775 := by
    unfold OnClock
    decide
  obtain ⟨-, longer, again⟩ :=
    dated.stale_exact_iff ordered wordSurroundings firstBuild.workspace
  have fresh : (builtIndex.lasting 400).isStale 400001 = false := by decide +kernel
  refine ⟨snapshot, dated, ordered, fresh, longer.mpr (.inr (.inr onClock)) fresh,
    fun rebuilt => ?_⟩
  have older := again.mpr onClock rebuilt
  rw [Snapshot.OlderThan, first] at older
  omega

/-- For one second more than the clock shows, the index is stale as soon as it is built, and a
refresh builds it again. -/
theorem builtIndex_stale_at_once :
    ∃ snapshot, builtIndex.Dated snapshot 1 ∧ snapshot.capturedAt = 1 ∧
      ¬snapshot.OlderThan 9223372036854776 1 ∧
      (builtIndex.lasting 9223372036854775).isStale 1 = false ∧
      (builtIndex.lasting 9223372036854776).isStale 1 = true ∧
      (Session.refresh wordSurroundings (builtIndex.lasting 9223372036854776) 1).outcome
          firstBuild.workspace =
        (Session.rebuild wordSurroundings (builtIndex.lasting 9223372036854776) 1).outcome
          firstBuild.workspace := by
  obtain ⟨snapshot, dated, first⟩ := dated_builtIndex 1 (by decide) (by decide)
  have stale : (builtIndex.lasting 9223372036854776).isStale 1 = true := by decide +kernel
  refine ⟨snapshot, dated, first, ?_, by decide +kernel, stale,
    (Session.refresh_eq_rebuild_iff _ _ _ _).mpr stale⟩
  rw [Snapshot.OlderThan, first]
  omega

end Index

end SourceAtlas
