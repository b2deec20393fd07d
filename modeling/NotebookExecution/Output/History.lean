import NotebookExecution.Library.Runs
import NotebookExecution.Library.Sorting
import NotebookExecution.Output.Manager

/-! The history of outputs: what calls of the output manager store, and in which order it is read. -/

namespace NotebookExecution.Output

open Library.Runs Library.Sorting Library.Transaction Library.Table Store

structure OutputCall where
  maxOutputSize : ℕ
  output : RawOutput
  generated : ℕ → Env

namespace OutputCall

def events (c : OutputCall) : List (Env × OutputEventSchema) :=
  (OutputManager.createOutputEvents c.maxOutputSize c.output).1.map fun event =>
    (c.generated event.sequence, event)

def persist (c : OutputCall) : Tx Database ServiceError (List ExecutionOutput) :=
  OutputManager.persistEvents c.events

end OutputCall

structure Recorded where
  store : Database
  calls : List (List ExecutionOutput)

def recordStep (s : Recorded) (c : OutputCall) : Option Recorded :=
  match request s.store c.persist with
  | (.ok records, d) => some ⟨d, s.calls ++ [records]⟩
  | (.error _, d) => some ⟨d, s.calls⟩

def nothingRecorded (d : Database) : Recorded := ⟨{ d with executionOutputs := [] }, []⟩

def ReplaysThe (matching : ExecutionOutput → Bool) (s : Recorded) : Prop :=
  ∀ answer, Answers ExecutionOutput.sequence (s.store.executionOutputs.filter matching) answer →
    answer = (s.calls.map (List.filter matching)).flatten

structure Replays (s : Recorded) : Prop where
  execution : ∀ executionId, ReplaysThe (fun o => o.executionId = executionId) s
  cell : ∀ cellId, ReplaysThe (fun o => o.cellId = some cellId) s

lemma getOutputsByExecution_answers {ε : Type} (executionId : String) (s : Session Database) :
    ∃ answer, (OutputManager.getOutputsByExecution executionId : Tx Database ε _) s = (.ok answer, s) ∧
      Answers ExecutionOutput.sequence
        (s.view.executionOutputs.filter fun o => o.executionId = executionId) answer :=
  ⟨_, rfl, answers_insertionSort _ _⟩

lemma getOutputsByCell_answers {ε : Type} (cellId : String) (s : Session Database) :
    ∃ answer, (OutputManager.getOutputsByCell cellId : Tx Database ε _) s = (.ok answer, s) ∧
      Answers ExecutionOutput.sequence
        (s.view.executionOutputs.filter fun o => o.cellId = some cellId) answer :=
  ⟨_, rfl, answers_insertionSort _ _⟩

variable {d : Database} {s t : Recorded} {c : OutputCall}

def rowsOf (l : List (Env × OutputEventSchema)) : List ExecutionOutput :=
  l.map fun p => ExecutionOutputRepository.row p.1 p.2

def Storable (rows : List ExecutionOutput) (d : Database) : Prop :=
  ((d.executionOutputs ++ rows).map ExecutionOutput.id).Nodup ∧
    ∀ o ∈ rows, executionOutputClash d o = false

lemma storable_cons {o : ExecutionOutput} {rows : List ExecutionOutput} :
    Storable (o :: rows) d ↔ executionOutputTable.occupied executionOutputClash o d = false ∧
      Storable rows (executionOutputTable.append o d) := by
  have hrows : (executionOutputTable.append o d).executionOutputs = d.executionOutputs ++ [o] := rfl
  rw [Storable, Storable, hrows, List.append_assoc, List.singleton_append]
  constructor
  · rintro ⟨hn, hc⟩
    refine ⟨executionOutputTable.occupied_eq_false.mpr ⟨lookup_none.mpr fun x hx he => ?_,
      hc o List.mem_cons_self⟩, hn, fun x hx => hc x (List.mem_cons_of_mem _ hx)⟩
    rw [List.map_append, List.map_cons, List.nodup_append'] at hn
    have hid : x.id = o.id := he
    exact hn.2.2 (List.mem_map_of_mem hx) (hid ▸ List.mem_cons_self)
  · rintro ⟨ho, hn, hc⟩
    refine ⟨hn, fun x hx => ?_⟩
    cases List.mem_cons.mp hx with
    | inl he => exact he ▸ (executionOutputTable.occupied_inv ho).2
    | inr hm => exact hc x hm

lemma bulkCreate_cases (l : List (Env × OutputEventSchema)) (s : Session Database)
    (hn : (s.view.executionOutputs.map ExecutionOutput.id).Nodup) :
    (∃ err t, ExecutionOutputRepository.bulkCreate l s = (.error err, t) ∧ t.committed = s.committed ∧
        ¬ Storable (rowsOf l) s.view) ∨
      Storable (rowsOf l) s.view ∧ ExecutionOutputRepository.bulkCreate l s = (.ok (rowsOf l),
        { s with view := { s.view with
          executionOutputs := s.view.executionOutputs ++ rowsOf l } }) := by
  induction l generalizing s with
  | nil =>
    refine Or.inr ⟨⟨by simpa [rowsOf] using hn, by simp [rowsOf]⟩, ?_⟩
    simp [rowsOf, ExecutionOutputRepository.bulkCreate]
  | cons p l ih =>
    obtain ⟨e, event⟩ := p
    have hr : rowsOf ((e, event) :: l) = ExecutionOutputRepository.row e event :: rowsOf l := rfl
    rw [hr, storable_cons, ExecutionOutputRepository.bulkCreate]
    cases ho : executionOutputTable.occupied executionOutputClash (ExecutionOutputRepository.row e event)
        s.view with
    | true =>
      have hc : ExecutionOutputRepository.create e event s = (.error .integrityError, s) :=
        executionOutputTable.insert_refused ho
      exact Or.inl ⟨_, s, bind_error hc, rfl, fun h => by cases h.1⟩
    | false =>
      have hc : ExecutionOutputRepository.create e event s = (.ok (ExecutionOutputRepository.row e event),
          { s with view := executionOutputTable.append (ExecutionOutputRepository.row e event) s.view }) :=
        executionOutputTable.insert_accepted ho
      rw [bind_ok hc]
      have hfree : ∀ x ∈ s.view.executionOutputs, x.id ≠ e.uuid :=
        lookup_none.mp (executionOutputTable.occupied_inv ho).1
      rcases ih { s with view := executionOutputTable.append (ExecutionOutputRepository.row e event) s.view }
        (concat_map_nodup hn hfree) with ⟨err, t, he, ht, hs⟩ | ⟨hs, he⟩
      · exact Or.inl ⟨err, t, bind_error he, ht, fun h => hs h.2⟩
      · refine Or.inr ⟨⟨rfl, hs⟩, ?_⟩
        rw [bind_ok he]
        change (Except.ok _, _) = _
        have ha : (executionOutputTable.append (ExecutionOutputRepository.row e event)
            s.view).executionOutputs ++ rowsOf l =
            s.view.executionOutputs ++ ExecutionOutputRepository.row e event :: rowsOf l :=
          List.append_assoc _ [_] _
        rw [ha]
        rfl

namespace OutputCall

def pieces (c : OutputCall) : List OutputManager.Piece := OutputManager.pieces c.maxOutputSize c.output

def rows (c : OutputCall) : List ExecutionOutput := rowsOf c.events

lemma events_eq (c : OutputCall) : c.events =
    (OutputManager.numbered c.output 1 c.pieces).map fun event => (c.generated event.sequence, event) := rfl

lemma rows_eq (c : OutputCall) : c.rows = (OutputManager.numbered c.output 1 c.pieces).map fun event =>
    ExecutionOutputRepository.row (c.generated event.sequence) event := by
  rw [rows, rowsOf, events_eq, List.map_map]
  rfl

end OutputCall

lemma numbered_sequence (x : RawOutput) (n : ℕ) (ps : List OutputManager.Piece) :
    (OutputManager.numbered x n ps).map OutputEventSchema.sequence = List.range' n ps.length := by
  induction ps generalizing n with
  | nil => rfl
  | cons p ps ih =>
    rw [OutputManager.numbered, List.map_cons, ih]
    rfl

lemma mem_numbered {x : RawOutput} {n : ℕ} {ps : List OutputManager.Piece} {event : OutputEventSchema}
    (h : event ∈ OutputManager.numbered x n ps) :
    event.executionId = x.executionId ∧ event.cellId = x.cellId ∧ event.notebookId = x.notebookId := by
  induction ps generalizing n with
  | nil => cases h
  | cons p ps ih =>
    rw [OutputManager.numbered] at h
    cases List.mem_cons.mp h with
    | inl he => exact he ▸ ⟨rfl, rfl, rfl⟩
    | inr hm => exact ih hm

lemma rows_sequence (c : OutputCall) :
    c.rows.map ExecutionOutput.sequence = List.range' 1 c.pieces.length := by
  rw [c.rows_eq, List.map_map]
  exact numbered_sequence c.output 1 c.pieces

lemma rows_id (c : OutputCall) :
    c.rows.map ExecutionOutput.id = (List.range' 1 c.pieces.length).map fun n => (c.generated n).uuid := by
  rw [← numbered_sequence c.output, c.rows_eq, List.map_map, List.map_map]
  rfl

lemma mem_rows {o : ExecutionOutput} (h : o ∈ c.rows) :
    o.executionId = c.output.executionId ∧ o.cellId = c.output.cellId ∧ o.notebookId = c.output.notebookId := by
  rw [c.rows_eq] at h
  obtain ⟨event, he, rfl⟩ := List.mem_map.mp h
  exact mem_numbered he

lemma rows_strict (c : OutputCall) : c.rows.Pairwise fun x y => x.sequence < y.sequence := by
  have h : (c.rows.map ExecutionOutput.sequence).Pairwise (· < ·) := by
    rw [rows_sequence]
    exact List.pairwise_lt_range'
  exact List.pairwise_map.mp h

lemma rows_first (h : c.pieces ≠ []) : ∃ o ∈ c.rows, o.sequence = 1 := by
  have hm : 1 ∈ c.rows.map ExecutionOutput.sequence := by
    rw [rows_sequence, List.mem_range'_1]
    have hl : 0 < c.pieces.length := List.length_pos_iff.mpr h
    omega
  exact List.mem_map.mp hm

lemma rows_positive {o : ExecutionOutput} (h : o ∈ c.rows) : 1 ≤ o.sequence := by
  have hm : o.sequence ∈ c.rows.map ExecutionOutput.sequence := List.mem_map_of_mem h
  rw [rows_sequence, List.mem_range'_1] at hm
  exact hm.1

lemma rows_nil : c.rows = [] ↔ c.pieces = [] := by
  have hl := congrArg List.length (rows_sequence c)
  rw [List.length_map, List.length_range'] at hl
  rw [← List.length_eq_zero_iff, ← List.length_eq_zero_iff, hl]

structure Accepted (d : Database) (c : OutputCall) : Prop where
  ids : (d.executionOutputs.map ExecutionOutput.id ++
    (List.range' 1 c.pieces.length).map fun n => (c.generated n).uuid).Nodup
  notebook : c.pieces ≠ [] → ∀ k, c.output.notebookId = some k → ∃ n ∈ d.notebooks, n.id = k

lemma storable_iff : Storable c.rows d ↔ Accepted d c := by
  have hclash : ∀ o ∈ c.rows, executionOutputClash d o = false ↔
      ∀ k, c.output.notebookId = some k → ∃ n ∈ d.notebooks, n.id = k := by
    intro o ho
    rw [executionOutputClash, (mem_rows ho).2.2]
    cases c.output.notebookId with
    | none => simp
    | some k => simp [List.all_eq_false]
  rw [Storable, List.map_append, rows_id]
  constructor
  · rintro ⟨hn, hc⟩
    refine ⟨hn, fun hp => ?_⟩
    obtain ⟨o, ho, -⟩ := rows_first hp
    exact (hclash o ho).mp (hc o ho)
  · rintro ⟨hn, hc⟩
    refine ⟨hn, fun o ho => (hclash o ho).mpr (hc fun hp => ?_)⟩
    rw [rows_nil.mpr hp] at ho
    cases ho

structure Kept (s : Recorded) : Prop where
  records : s.store.executionOutputs = s.calls.flatten
  ids : (s.store.executionOutputs.map ExecutionOutput.id).Nodup
  positive : ∀ o ∈ s.store.executionOutputs, 1 ≤ o.sequence

def recorded (s : Recorded) (c : OutputCall) : Recorded :=
  ⟨{ s.store with executionOutputs := s.store.executionOutputs ++ c.rows }, s.calls ++ [c.rows]⟩

lemma recordStep_cases (hs : Kept s) (h : recordStep s c = some t) :
    (¬ Accepted s.store c ∧ t = s) ∨ Accepted s.store c ∧ t = recorded s c := by
  rw [← storable_iff]
  rcases bulkCreate_cases c.events (.open s.store) hs.ids with ⟨err, u, he, hu, hn⟩ | ⟨hn, he⟩
  · have hr : request s.store c.persist = (.error err, s.store) := request_raises he hu
    rw [recordStep, hr] at h
    cases h
    exact Or.inl ⟨hn, rfl⟩
  · have hr : request s.store c.persist = (.ok c.rows, (recorded s c).store) := request_returns he
    rw [recordStep, hr] at h
    cases h
    exact Or.inr ⟨hn, rfl⟩

lemma kept_step (hs : Kept s) (h : recordStep s c = some t) : Kept t := by
  rcases recordStep_cases hs h with ⟨-, rfl⟩ | ⟨ha, rfl⟩
  · exact hs
  · refine ⟨?_, ?_, fun o ho => ?_⟩
    · change s.store.executionOutputs ++ c.rows = (s.calls ++ [c.rows]).flatten
      rw [hs.records, List.flatten_append, List.flatten_singleton]
    · exact (storable_iff.mpr ha).1
    · cases List.mem_append.mp ho with
      | inl hm => exact hs.positive o hm
      | inr hm => exact rows_positive hm

lemma replaysThe_iff (hs : Kept s) (matching : ExecutionOutput → Bool) :
    ReplaysThe matching s ↔
      (s.store.executionOutputs.filter matching).Pairwise fun x y => x.sequence < y.sequence := by
  have hn : (s.store.executionOutputs.filter matching).Nodup := (List.Nodup.of_map _ hs.ids).filter _
  have hf : (s.calls.map (List.filter matching)).flatten = s.store.executionOutputs.filter matching := by
    rw [hs.records, List.filter_flatten]
  rw [ReplaysThe, hf]
  exact only_answer_iff hn

lemma replaysThe_recorded {matching : ExecutionOutput → Bool} {b : Bool} (hs : Kept s)
    (ht : Kept (recorded s c)) (hr : ReplaysThe matching s) (hb : ∀ o ∈ c.rows, matching o = b) :
    ReplaysThe matching (recorded s c) ↔
      (c.pieces ≠ [] → b = true → ∀ o ∈ s.store.executionOutputs, matching o = false) := by
  rw [replaysThe_iff hs] at hr
  rw [replaysThe_iff ht]
  have happ : (recorded s c).store.executionOutputs.filter matching =
      s.store.executionOutputs.filter matching ++ c.rows.filter matching := List.filter_append _ _
  rw [happ, List.pairwise_append]
  constructor
  · rintro ⟨-, -, h⟩ hp hbt o ho
    -- The first record of the call has number one, and no stored record has a smaller one.
    cases hm : matching o with
    | false => rfl
    | true =>
      obtain ⟨x, hx, hx1⟩ := rows_first hp
      have hlt := h o (List.mem_filter.mpr ⟨ho, hm⟩) x (List.mem_filter.mpr ⟨hx, (hb x hx).trans hbt⟩)
      have hpos := hs.positive o ho
      omega
  · intro h
    refine ⟨hr, (rows_strict c).filter _, fun x hx y hy => ?_⟩
    obtain ⟨hx, hmx⟩ := List.mem_filter.mp hx
    obtain ⟨hy, hmy⟩ := List.mem_filter.mp hy
    have hp : c.pieces ≠ [] := fun hp => by
      rw [rows_nil.mpr hp] at hy
      cases hy
    have hno := h hp ((hb y hy).symm.trans hmy) x hx
    rw [hmx] at hno
    cases hno

def Unused (s : Recorded) (c : OutputCall) : Prop :=
  Accepted s.store c → c.pieces ≠ [] → ∀ o ∈ s.store.executionOutputs,
    o.executionId ≠ c.output.executionId ∧ ∀ k, c.output.cellId = some k → o.cellId ≠ some k

lemma replays_recorded (hs : Kept s) (ht : Kept (recorded s c)) (hr : Replays s) :
    Replays (recorded s c) ↔ (c.pieces ≠ [] → ∀ o ∈ s.store.executionOutputs,
      o.executionId ≠ c.output.executionId ∧ ∀ k, c.output.cellId = some k → o.cellId ≠ some k) := by
  have hexec : ∀ executionId, ∀ o ∈ c.rows, decide (o.executionId = executionId) =
      decide (c.output.executionId = executionId) := by
    intro executionId o ho
    rw [(mem_rows ho).1]
  have hcell : ∀ cellId, ∀ o ∈ c.rows, decide (o.cellId = some cellId) =
      decide (c.output.cellId = some cellId) := by
    intro cellId o ho
    rw [(mem_rows ho).2.1]
  constructor
  · intro h hp o ho
    refine ⟨?_, fun k hk => ?_⟩
    · have hno := (replaysThe_recorded hs ht (hr.execution _) (hexec c.output.executionId)).mp
        (h.execution _) hp (decide_eq_true rfl) o ho
      exact of_decide_eq_false hno
    · have hno := (replaysThe_recorded hs ht (hr.cell _) (hcell k)).mp (h.cell _) hp
        (decide_eq_true hk) o ho
      exact of_decide_eq_false hno
  · intro h
    refine ⟨fun executionId => ?_, fun cellId => ?_⟩
    · refine (replaysThe_recorded hs ht (hr.execution _) (hexec executionId)).mpr fun hp he o ho => ?_
      rw [← of_decide_eq_true he]
      exact decide_eq_false (h hp o ho).1
    · refine (replaysThe_recorded hs ht (hr.cell _) (hcell cellId)).mpr fun hp he o ho => ?_
      exact decide_eq_false ((h hp o ho).2 cellId (of_decide_eq_true he))

theorem history_replays_iff (d : Database) (calls : List OutputCall) :
    Along recordStep (fun _ _ t => Replays t) (nothingRecorded d) calls ↔
      Along recordStep (fun s c _ => Unused s c) (nothingRecorded d) calls := by
  apply along_iff_of_invariant (I := Kept)
  · intro s c t hs ht
    exact kept_step hs ht
  · intro s c t hs hr ht
    have hkept := kept_step hs ht
    rcases recordStep_cases hs ht with ⟨hn, rfl⟩ | ⟨ha, rfl⟩
    · exact iff_of_true hr fun ha => absurd ha hn
    · rw [replays_recorded hs hkept hr, Unused]
      exact ⟨fun h _ => h, fun h => h ha⟩
  · exact ⟨rfl, .nil, fun o ho => absurd ho List.not_mem_nil⟩
  · exact ⟨fun _ _ h => h.1.eq_nil, fun _ _ h => h.1.eq_nil⟩

def testLog (stdout stderr status : String) : RawOutput where
  executionId := "conn-test-13"
  sessionId := "connector-manager"
  stdout := stdout
  stderr := stderr
  status := status

def testedTwice : List OutputCall :=
  [⟨100000, testLog "AVAILABLE" "" "ok", fun _ => ⟨1, 0⟩⟩,
    ⟨100000, testLog "" "refused" "failed", fun _ => ⟨2, 1⟩⟩]

theorem second_test_reordered : ¬ ∀ (d : Database) (calls : List OutputCall),
    Along recordStep (fun _ _ t => Replays t) (nothingRecorded d) calls := by
  intro h
  -- The records in reverse are sorted as well, both having number one.
  have hrun : Along recordStep (fun _ _ t =>
      (t.store.executionOutputs.filter fun o => o.executionId = "conn-test-13").reverse.Pairwise
          (fun x y => x.sequence ≤ y.sequence) →
        (t.store.executionOutputs.filter fun o => o.executionId = "conn-test-13").reverse =
          (t.calls.map (List.filter fun o => o.executionId = "conn-test-13")).flatten)
      (nothingRecorded .empty) testedTwice :=
    (h .empty testedTwice).imp fun s c t _ ht hp => ht.execution _ _ ⟨List.reverse_perm _, hp⟩
  exact absurd hrun (by decide +kernel)

end NotebookExecution.Output
