import FaceFraming.Replay.Session
import Mathlib

/-!
# What a replay reports

A replay reads a recording line by line. This module describes what it leaves without following
the loop: the recording's *entries* are its lines that are not blank once trimmed, its *records*
the entries that read as frame records, in order, and its *unreadable* entries the others
(`Recording.entries`, `Recording.records`, `Recording.unreadable`). The reports are those of
replaying the records one after another (`Replayer.processAll`).

The main statement is `Replayer.run_summary`: a replay that fails nowhere counts as frames the
records, as changes the reports that changed and as skipped the unreadable entries; it prints one
line per report in order, or per changed report when only changes are printed; and the `k`-th
report is numbered `k` past the frames replayed before, with the record's own time or, for a
record without one, the time of frame `k` at the settings' rate. Blank and unreadable lines take
no number.

It is assembled from the lemma for one frame (`Replayer.process_numbering`), the run of records
(`Replayer.processAll_numbering`), the loop over lines (`Replayer.runLines_eq`) and the closing
flush (`Replayer.run_of_failure_eq_none`).
-/

namespace FaceFraming

open Json

namespace Recording

/-- The lines of a recording that are not blank once trimmed, trimmed. A line that is not UTF-8
is left out: it stops a replay. -/
def entries (lines : List (List UInt8)) : List String :=
  lines.filterMap fun line =>
    (Utf8.toString? line).bind fun text =>
      if (Text.trimSpace text).isEmpty then none else some (Text.trimSpace text)

/-- The entries of a recording that read as frame records, in order. -/
def records (lines : List (List UInt8)) : List FrameRecord :=
  (entries lines).filterMap fun entry => (FrameRecord.read entry).toOption

/-- The number of entries of a recording that do not read as frame records. -/
def unreadable (lines : List (List UInt8)) : Nat :=
  (entries lines).countP fun entry => (FrameRecord.read entry).toOption.isNone

end Recording

/-- The text a replay prints for its reports: one JSON line per report, in order, or only per
changed report when only changes are printed. -/
def FrameReport.printed (changesOnly : Bool) (reports : List FrameReport) : String :=
  String.join ((reports.filter fun r => r.changed || !changesOnly).map
    fun r => r.toValue.render ++ "\n")

/-- A computation that goes through a bind went through its first part. -/
theorem Except.eq_ok_of_bind_eq_ok {ε α β : Type} {x : Except ε α} {f : α → Except ε β} {b : β}
    (h : x >>= f = .ok b) : ∃ a, x = .ok a ∧ f a = .ok b := by
  cases x with
  | error e => cases h
  | ok a => exact ⟨a, rfl, h⟩

namespace Replayer

/-- Replays records one after another, stopping at the first overlay frame the sink refuses:
the reports in order and the replayer left. -/
def processAll (r : Replayer) : List FrameRecord → Except IoFault (List FrameReport × Replayer)
  | [] => .ok ([], r)
  | rec :: recs => do
    let (report, r) ← r.process rec
    let (reports, r) ← r.processAll recs
    pure (report :: reports, r)

/-! ### One frame, then a run of records -/

/-- A frame replayed is numbered by the frames replayed before it and timed by its record, or by
its number at the settings' rate; the replayer counts it and keeps its settings. -/
theorem process_numbering {r r' : Replayer} {rec : FrameRecord} {report : FrameReport}
    (h : r.process rec = .ok (report, r')) :
    report.frame = r.frames ∧ report.timestamp = rec.timestamp.getD (r.settings.timeOfFrame r.frames) ∧
      r'.frames = r.frames + 1 ∧ r'.settings = r.settings := by
  unfold process at h
  simp only [bind, Except.bind, pure, Except.pure] at h
  -- a refused overlay write ends in an error; every other way builds the report and the replayer
  -- from the same block
  repeat' split at h
  all_goals cases h <;> exact ⟨rfl, rfl, rfl, rfl⟩

@[simp] theorem processAll_nil (r : Replayer) : r.processAll [] = .ok ([], r) := rfl

theorem processAll_cons {r r' : Replayer} {rec : FrameRecord} {recs : List FrameRecord}
    {reports : List FrameReport} (h : r.processAll (rec :: recs) = .ok (reports, r')) :
    ∃ report r₁ rest, r.process rec = .ok (report, r₁) ∧ r₁.processAll recs = .ok (rest, r') ∧
      reports = report :: rest := by
  obtain ⟨⟨report, r₁⟩, h₁, h⟩ := Except.eq_ok_of_bind_eq_ok h
  obtain ⟨⟨rest, r₂⟩, h₂, h⟩ := Except.eq_ok_of_bind_eq_ok h
  obtain ⟨rfl, rfl⟩ := Prod.mk.inj (Except.ok.inj h)
  exact ⟨report, r₁, rest, h₁, h₂, rfl⟩

/-- Records replayed one after another: one report each, the `k`-th numbered `k` past the frames
replayed before and timed by its record or by that number; the replayer counts them all and keeps
its settings. -/
theorem processAll_numbering {r r' : Replayer} {recs : List FrameRecord}
    {reports : List FrameReport} (h : r.processAll recs = .ok (reports, r')) :
    reports.length = recs.length ∧ r'.frames = r.frames + recs.length ∧
      r'.settings = r.settings ∧
      ∀ k report, reports[k]? = some report → ∃ rec, recs[k]? = some rec ∧
        report.frame = r.frames + k ∧
        report.timestamp = rec.timestamp.getD (r.settings.timeOfFrame (r.frames + k)) := by
  induction recs generalizing r reports with
  | nil =>
    obtain ⟨rfl, rfl⟩ := Prod.mk.inj (Except.ok.inj h)
    exact ⟨rfl, rfl, rfl, fun k report hk => by simp at hk⟩
  | cons rec recs ih =>
    obtain ⟨report, r₁, rest, h₁, hrest, rfl⟩ := processAll_cons h
    obtain ⟨hframe, htime, hcount, hset⟩ := process_numbering h₁
    obtain ⟨hlen, hcount', hset', hat⟩ := ih hrest
    refine ⟨by simp [hlen], by simp [hcount', hcount]; omega, hset'.trans hset, ?_⟩
    intro k report' hk
    cases k with
    | zero =>
      obtain rfl := Option.some.inj hk
      exact ⟨rec, rfl, by simp [hframe], by simp [htime]⟩
    | succ k =>
      -- the later reports are numbered past this frame
      obtain ⟨rec', hrec', hf, ht⟩ := hat k report' hk
      refine ⟨rec', hrec', by rw [hf, hcount]; omega, ?_⟩
      rw [ht, hcount, hset, Nat.add_assoc, Nat.add_comm 1 k]

/-! ### The loop over lines -/

theorem printed_nil (changesOnly : Bool) : FrameReport.printed changesOnly [] = "" := rfl

theorem printed_cons (changesOnly : Bool) (report : FrameReport) (reports : List FrameReport) :
    FrameReport.printed changesOnly (report :: reports) =
      (if report.changed || !changesOnly then report.toValue.render ++ "\n" else "") ++
        FrameReport.printed changesOnly reports := by
  unfold FrameReport.printed
  by_cases hs : (report.changed || !changesOnly) = true
  · simp [hs]
  · simp [hs]

/-- The lines of a recording replayed from an outcome that has not failed, when no line fails:
the replayer is the one replaying the records leaves, the reports of the records are printed after
the text so far, and the counts grow by the records, the changed reports and the unreadable
entries. -/
theorem runLines_eq {o : ReplayOutcome} {lines : List (List UInt8)}
    (h : (runLines o lines).failure = none) (h₀ : o.failure = none) :
    ∃ reports r', o.replayer.processAll (Recording.records lines) = .ok (reports, r') ∧
      runLines o lines =
        { o with replayer := r',
                 text := o.text ++ FrameReport.printed o.replayer.settings.changesOnly reports,
                 summary := { frames := o.summary.frames + reports.length,
                              changes := o.summary.changes + reports.countP (·.changed),
                              skipped := o.summary.skipped + Recording.unreadable lines } } := by
  induction lines generalizing o with
  | nil =>
    refine ⟨[], o.replayer, rfl, ?_⟩
    simp [runLines, printed_nil, Recording.unreadable, Recording.entries]
  | cons line rest ih =>
    cases hu : Utf8.toString? line with
    | none => simp [runLines, hu] at h
    | some text =>
      have hent : Recording.entries (line :: rest) =
          (if (Text.trimSpace text).isEmpty then [] else [Text.trimSpace text]) ++
            Recording.entries rest := by
        unfold Recording.entries
        rw [List.filterMap_cons, hu, Option.bind_some]
        split_ifs <;> rfl
      by_cases hblank : (Text.trimSpace text).isEmpty = true
      · -- a blank line is passed over
        simp only [runLines, hu, hblank, if_true] at h ⊢
        have hrec : Recording.records (line :: rest) = Recording.records rest := by
          simp [Recording.records, hent, hblank]
        have hun : Recording.unreadable (line :: rest) = Recording.unreadable rest := by
          simp [Recording.unreadable, hent, hblank]
        rw [hrec, hun]
        exact ih h h₀
      · rw [if_neg hblank] at hent
        cases hread : FrameRecord.read (Text.trimSpace text) with
        | error e =>
          -- an unreadable line is counted as skipped
          simp only [runLines, hu, hblank, hread, Bool.false_eq_true, if_false] at h ⊢
          obtain ⟨reports, r', hall, heq⟩ := ih h h₀
          have hrec : Recording.records (line :: rest) = Recording.records rest := by
            simp [Recording.records, hent, hread, Except.toOption]
          have hun : Recording.unreadable (line :: rest) = Recording.unreadable rest + 1 := by
            simp [Recording.unreadable, hent, hread, Except.toOption, Nat.add_comm]
          refine ⟨reports, r', by rw [hrec]; exact hall, ?_⟩
          rw [heq, hun]
          simp only [Nat.add_assoc, Nat.add_comm 1]
        | ok rec =>
          cases hproc : o.replayer.process rec with
          | error f => simp [runLines, hu, hblank, hread, hproc] at h
          | ok v =>
            -- a record is replayed, counted, and printed when shown
            obtain ⟨report, r₁⟩ := v
            obtain ⟨-, -, -, hset⟩ := process_numbering hproc
            simp only [runLines, hu, hblank, hread, hproc, Bool.false_eq_true, if_false] at h ⊢
            obtain ⟨reports, r', hall, heq⟩ := ih h rfl
            have hrec : Recording.records (line :: rest) = rec :: Recording.records rest := by
              simp [Recording.records, hent, hread, Except.toOption]
            have hun : Recording.unreadable (line :: rest) = Recording.unreadable rest := by
              simp [Recording.unreadable, hent, hread, Except.toOption]
            refine ⟨report :: reports, r', ?_, ?_⟩
            · rw [hrec]
              simp [processAll, hproc, hall, bind, Except.bind, pure, Except.pure]
            · rw [heq, hun, printed_cons, hset]
              rw [h₀]
              congr 1
              · -- this report's line, when shown, comes before the lines of the rest
                split_ifs <;> simp [String.append_assoc]
              · simp only [ReplaySummary.mk.injEq, List.length_cons, List.countP_cons]
                exact ⟨by omega, by omega, trivial⟩

/-- A replay that fails nowhere leaves what its loop over lines leaves, the overlay sink flushed. -/
theorem run_of_failure_eq_none {r : Replayer} {input : List UInt8} (h : (r.run input).failure = none) :
    (runLines { replayer := r, text := "", summary := {} } (splitLines input)).failure = none ∧
      (r.run input).text = (runLines { replayer := r, text := "", summary := {} } (splitLines input)).text ∧
      (r.run input).summary =
        (runLines { replayer := r, text := "", summary := {} } (splitLines input)).summary := by
  unfold run at h ⊢
  dsimp only at h ⊢
  generalize runLines { replayer := r, text := "", summary := {} } (splitLines input) = o at h ⊢
  -- the flush changes only the sink, or fails
  split at h
  · split at h
    · simp_all
    · simp at h
  · next hno =>
    refine ⟨?_, rfl, rfl⟩
    cases hf : o.failure with
    | none => rfl
    | some f =>
      cases hs : o.replayer.overlay <;> simp_all

/-! ### The replay -/

/-- A replay that fails nowhere (every line UTF-8, every overlay frame and the final flush taken by
the sink) reports every record of the recording in order: the summary counts the records as
frames, the changed reports as changes and the unreadable entries as skipped; the text printed is
one JSON line per report, or per changed report when only changes are printed; and the `k`-th
report is numbered `k` past the frames replayed before, with its record's time or, without one,
the time of that frame at the settings' rate. Blank and unreadable lines take no number. -/
theorem run_summary {r : Replayer} {input : List UInt8} (h : (r.run input).failure = none) :
    let recs := Recording.records (splitLines input)
    ∃ reports r', r.processAll recs = .ok (reports, r') ∧
      (r.run input).summary =
        { frames := reports.length, changes := reports.countP (·.changed),
          skipped := Recording.unreadable (splitLines input) } ∧
      (r.run input).text = FrameReport.printed r.settings.changesOnly reports ∧
      reports.length = recs.length ∧
      ∀ k report, reports[k]? = some report → ∃ rec, recs[k]? = some rec ∧
        report.frame = r.frames + k ∧
        report.timestamp = rec.timestamp.getD (r.settings.timeOfFrame (r.frames + k)) := by
  intro recs
  obtain ⟨hfail, htext, hsummary⟩ := run_of_failure_eq_none h
  obtain ⟨reports, r', hall, heq⟩ := runLines_eq hfail rfl
  obtain ⟨hlen, -, -, hat⟩ := processAll_numbering hall
  refine ⟨reports, r', hall, ?_, ?_, hlen, hat⟩
  · rw [hsummary, heq]
    simp
  · rw [htext, heq]
    simp

/-- A recording of an empty record, a blank line and a line that is not a record (`{}`, ``, `x`),
replayed on a passed-through stream, fails nowhere. -/
theorem run_summary_small :
    let r : Replayer := { processor := .passthrough, settings := {} }
    let input : List UInt8 := [123, 125, 10, 10, 120, 10]
    (r.run input).failure = none ∧
      let recs := Recording.records (splitLines input)
      ∃ reports r', r.processAll recs = .ok (reports, r') ∧
        (r.run input).summary =
          { frames := reports.length, changes := reports.countP (·.changed),
            skipped := Recording.unreadable (splitLines input) } ∧
        (r.run input).text = FrameReport.printed r.settings.changesOnly reports ∧
        reports.length = recs.length ∧
        ∀ k report, reports[k]? = some report → ∃ rec, recs[k]? = some rec ∧
          report.frame = r.frames + k ∧
          report.timestamp = rec.timestamp.getD (r.settings.timeOfFrame (r.frames + k)) :=
  have h : (({ processor := .passthrough, settings := {} } : Replayer).run
      [123, 125, 10, 10, 120, 10]).failure = none := by decide +kernel
  ⟨h, run_summary h⟩

end Replayer

end FaceFraming
