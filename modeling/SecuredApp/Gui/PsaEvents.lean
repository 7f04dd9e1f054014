import SecuredApp.Core.Py
import SecuredApp.Core.Run

/-!
# The events of a PSA

`PsaEventThread`, which asks for the list of the events of a PSA, reads on from the index it has
come to, and signals what it read as one text. The list only grows. An exception ends the thread,
which may be started again; its index stays.
-/

namespace SecuredApp

open SecuredApp.Core

/-- An event with a title and a body. -/
structure Notice where
  title : String
  body : String
deriving DecidableEq

/-- What an entry says, if it has a title and a body and both are texts: else reading it raises. -/
def noticeOf (entry : Json) : Option Notice :=
  match entry.member? "event_title", entry.member? "event_body" with
  | some (.str title), some (.str body) => some ⟨title, body⟩
  | _, _ => none

/-- What the loop adds to `info` for the notices from the one after `count` on. -/
def infoFrom (count : ℕ) : List Notice → String
  | [] => ""
  | notice :: rest =>
    "#" ++ toString (count + 1) ++ ": " ++ notice.title ++ "\n" ++ notice.body ++ "\n\n" ++
      infoFrom (count + 1) rest

/-- `PsaEventThread`: its index, whether it runs, the list it was answered last, and the notices of
each of the texts it has signalled. -/
structure EventThread where
  index : ℕ
  running : Bool
  events : List Json
  signals : List (List Notice)

def EventThread.init : EventThread where
  index := 0
  running := false
  events := []
  signals := []

/-- `while len(events) > self.index`, for the entries from the index on, and the signal after it;
`read` are the notices that `info` has. -/
def readEvents : List Json → List Notice → EventThread → EventThread
  | [], read, s =>
    if infoFrom 0 read ≠ "" then { s with signals := s.signals ++ [read] } else s
  | entry :: rest, read, s =>
    match noticeOf entry with
    | none => { s with running := false }
    | some notice => readEvents rest (read ++ [notice]) { s with index := s.index + 1 }

inductive PollEvent where
  | unreachable                                 -- the request raises
  | refused                                     -- a status other than 200
  | answer (new : List Json)                    -- 200, and what the list has become longer by
  | stop
  | start

/-- A poll of the thread, or what the GUI does with it between two polls. -/
def EventThread.step (s : EventThread) : PollEvent → Option EventThread
  | .unreachable | .refused => if s.running then some s else none
  | .answer new =>
    if s.running then
      let events := s.events ++ new
      some (readEvents (events.drop s.index) [] { s with events := events })
    else none
  | .stop => some { s with running := false }
  | .start => some { s with running := true }

/-! ### What a poll reads -/

/-- The notices of the entries before the first one that raises. -/
def readable : List Json → List Notice
  | [] => []
  | entry :: rest =>
    match noticeOf entry with
    | none => []
    | some notice => notice :: readable rest

/-- The thread does not end on one of the entries. -/
def ReadsAll (entries : List Json) : Prop := ∀ entry ∈ entries, noticeOf entry ≠ none

variable {s s' : EventThread} {e : PollEvent} {entry : Json} {entries : List Json}

lemma infoFrom_eq_empty_iff {count : ℕ} {read : List Notice} :
    infoFrom count read = "" ↔ read = [] := by
  cases read with
  | nil => simp [infoFrom]
  | cons notice read => simp [infoFrom]

/-- Entries that can all be read are signalled together. -/
lemma readEvents_of_all (h : ReadsAll entries) (read : List Notice) (s : EventThread) :
    (readEvents entries read s).index = s.index + entries.length ∧
      (readEvents entries read s).events = s.events ∧
      (readEvents entries read s).signals.flatten
        = s.signals.flatten ++ read ++ entries.filterMap noticeOf := by
  induction entries generalizing read s with
  | nil =>
    rw [readEvents]
    split_ifs with hinfo
    · simp
    · rw [ne_eq, not_not, infoFrom_eq_empty_iff] at hinfo
      simp [hinfo]
  | cons entry entries ih =>
    obtain ⟨hentry, hentries⟩ := List.forall_mem_cons.mp h
    obtain ⟨notice, hnotice⟩ := Option.ne_none_iff_exists'.mp hentry
    simp only [readEvents, hnotice]
    obtain ⟨hindex, hevents, hsignals⟩ := ih hentries (read ++ [notice])
      { s with index := s.index + 1 }
    refine ⟨?_, hevents, ?_⟩
    · rw [hindex, List.length_cons]
      show s.index + 1 + entries.length = s.index + (entries.length + 1)
      omega
    · rw [hsignals]
      simp [hnotice]

/-- An entry that raises ends the thread, and what was read before it is not signalled. -/
lemma readEvents_of_not_all (h : ¬ ReadsAll entries) (read : List Notice) (s : EventThread) :
    readEvents entries read s
      = { s with index := s.index + (readable entries).length, running := false } := by
  induction entries generalizing read s with
  | nil => exact absurd (by simp [ReadsAll]) h
  | cons entry entries ih =>
    cases hnotice : noticeOf entry with
    | none => simp [readEvents, readable, hnotice]
    | some notice =>
      have hentries : ¬ ReadsAll entries := by
        intro hall
        refine h (List.forall_mem_cons.mpr ⟨?_, hall⟩)
        rw [hnotice]
        exact Option.some_ne_none notice
      simp only [readEvents, readable, hnotice, ih hentries, List.length_cons]
      congr 1
      omega

/-! ### What is notified -/

/-- Every entry of the list with a title and a body was notified once, in the order of the list. -/
def EventThread.Notified (s : EventThread) : Prop :=
  s.signals.flatten = s.events.filterMap noticeOf

/-- The entries an answer gives the thread to read: those from its index on. -/
def EventThread.fresh (s : EventThread) (new : List Json) : List Json :=
  (s.events ++ new).drop s.index

/-- Of the entries an answer gives the thread to read, while it runs, all have a title and a body,
or none has. -/
def EventThread.Uniform (s : EventThread) : PollEvent → Prop
  | .answer new => s.running = true →
    ReadsAll (s.fresh new) ∨ ∀ entry ∈ s.fresh new, noticeOf entry = none
  | _ => True

/-- All was notified, and the thread has read all there was to notify. -/
structure EventThread.CaughtUp (s : EventThread) : Prop where
  notified : s.Notified
  index_le : s.index ≤ s.events.length
  rest : (s.events.drop s.index).filterMap noticeOf = []

/-- What an answer has to notify is what the list has become longer by. -/
lemma EventThread.CaughtUp.filterMap_fresh (h : s.CaughtUp) (new : List Json) :
    (s.fresh new).filterMap noticeOf = new.filterMap noticeOf := by
  rw [fresh, List.drop_append_of_le_length h.index_le, List.filterMap_append, h.rest,
    List.nil_append]

lemma readable_of_none (h : ∀ entry ∈ entries, noticeOf entry = none) : readable entries = [] := by
  cases entries with
  | nil => rfl
  | cons entry entries => simp [readable, h entry List.mem_cons_self]

/-- An answer whose entries can all be read leaves nothing unread. -/
lemma EventThread.CaughtUp.of_all (h : s.CaughtUp) {new : List Json}
    (hall : ReadsAll (s.fresh new)) :
    (readEvents (s.fresh new) [] { s with events := s.events ++ new }).CaughtUp := by
  obtain ⟨hindex, hevents, hsignals⟩ :=
    readEvents_of_all hall [] { s with events := s.events ++ new }
  have hend : (readEvents (s.fresh new) [] { s with events := s.events ++ new }).index
      = (s.events ++ new).length := by
    have hle := h.index_le
    rw [hindex, fresh, List.length_drop, List.length_append]
    show s.index + _ = _
    omega
  refine ⟨?_, ?_, ?_⟩
  · rw [Notified, hsignals, hevents, h.filterMap_fresh, List.append_nil, List.filterMap_append,
      h.notified]
  · rw [hend, hevents]
  · rw [hend, hevents, List.drop_length]
    rfl

/-- An answer that leaves the thread nothing to notify ends it, or leaves it where it is. -/
lemma EventThread.CaughtUp.of_none (h : s.CaughtUp) {new : List Json}
    (hnot : ¬ ReadsAll (s.fresh new)) (hnone : ∀ entry ∈ s.fresh new, noticeOf entry = none) :
    (readEvents (s.fresh new) [] { s with events := s.events ++ new }).CaughtUp := by
  have hnothing : (s.fresh new).filterMap noticeOf = [] := List.filterMap_eq_nil_iff.mpr hnone
  rw [readEvents_of_not_all hnot, readable_of_none hnone]
  refine ⟨?_, ?_, hnothing⟩
  · show s.signals.flatten = (s.events ++ new).filterMap noticeOf
    rw [List.filterMap_append, ← h.filterMap_fresh new, hnothing, List.append_nil]
    exact h.notified
  · show s.index ≤ (s.events ++ new).length
    rw [List.length_append]
    exact Nat.le_add_right_of_le h.index_le

/-- A poll of a running thread that is answered. -/
lemma EventThread.step_answer {new : List Json} :
    s.step (.answer new) = some s' ↔
      s.running = true ∧ s' = readEvents (s.fresh new) [] { s with events := s.events ++ new } := by
  rw [EventThread.step]
  split_ifs with hrunning
  · rw [Option.some.injEq, eq_comm, and_iff_right hrunning]
    rfl
  · simp [hrunning]

lemma EventThread.CaughtUp.step (h : s.CaughtUp) (huniform : s.Uniform e)
    (hstep : s.step e = some s') : s'.CaughtUp := by
  cases e with
  | unreachable | refused =>
    rw [EventThread.step] at hstep
    split_ifs at hstep
    exact Option.some.inj hstep ▸ h
  | answer new =>
    obtain ⟨hrunning, rfl⟩ := EventThread.step_answer.mp hstep
    by_cases hall : ReadsAll (s.fresh new)
    · exact h.of_all hall
    · exact h.of_none hall ((huniform hrunning).resolve_left hall)
  | stop | start =>
    rw [← Option.some.inj hstep]
    exact ⟨h.notified, h.index_le, h.rest⟩

/-- A step after which all is notified was uniform. -/
lemma EventThread.CaughtUp.uniform (h : s.CaughtUp)
    (hnotified : ∀ s', s.step e = some s' → s'.Notified) : s.Uniform e := by
  cases e with
  | answer new =>
    intro hrunning
    by_cases hall : ReadsAll (s.fresh new)
    · exact .inl hall
    · have hafter := hnotified _ (EventThread.step_answer.mpr ⟨hrunning, rfl⟩)
      rw [readEvents_of_not_all hall] at hafter
      have hsame : s.signals.flatten = (s.events ++ new).filterMap noticeOf := hafter
      rw [List.filterMap_append, h.notified, ← h.filterMap_fresh new] at hsame
      exact .inr (List.filterMap_eq_nil_iff.mp (List.self_eq_append_right.mp hsame))
  | _ => trivial

/-- In every run of polls, stops and starts, all entries with a title and a body are notified
exactly once, in the order of the list, exactly if each answer gives the thread entries to read
that all have them, or that all lack one. -/
theorem notified_once_iff (es : List PollEvent) :
    RunMeets EventThread.step (fun _ s e => ∀ s', s.step e = some s' → s'.Notified) .init es ↔
    RunMeets EventThread.step (fun _ s e => s.Uniform e) .init es := by
  refine runMeets_iff_of_invariant (P := EventThread.CaughtUp) ?_ ?_ ?_
  · exact ⟨rfl, Nat.le_refl _, rfl⟩
  · intro pre s₁ e s₂ hcaught huniform hstep
    exact hcaught.step huniform hstep
  · intro pre s₁ e hcaught
    refine ⟨hcaught.uniform, fun huniform s₂ hstep => ?_⟩
    exact (hcaught.step huniform hstep).notified

/-- An event with a title and a body. -/
def intrusion : Json := .obj [("event_title", .str "Intrusion"), ("event_body", .str "10.2.2.7")]

/-- The entry after it has no body: it is not signalled, then or when the thread runs again. -/
theorem notice_lost :
    ∃ s, run EventThread.step .init [.start, .answer [intrusion, .obj []], .start, .answer []]
        = some s ∧
      s.events.filterMap noticeOf = [⟨"Intrusion", "10.2.2.7"⟩] ∧ s.signals = [] ∧
      s.running = false ∧ ¬ s.Notified := by
  refine ⟨_, rfl, rfl, rfl, rfl, ?_⟩
  intro h
  cases h

end SecuredApp
