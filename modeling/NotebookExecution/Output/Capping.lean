import NotebookExecution.Library.Utf8
import NotebookExecution.Output.Manager

/-! The cap on the size of an output. The limit is compared with the bytes of a text, and a text above it
is cut at as many characters. -/

namespace NotebookExecution.Output

open Library.Text Store OutputManager

def truncationMarker : String := "\n[OUTPUT TRUNCATED - SIZE LIMIT EXCEEDED]"

def OutputEventSchema.truncated (o : OutputEventSchema) : Bool :=
  o.outputMetadata.any fun m => "\x7b\"truncated\": true".toList.isPrefixOf m.toList

def streamText (x : RawOutput) : OutputType → Option String
  | .stdout => given (some x.stdout)
  | .stderr => given (some x.stderr)
  | .traceback => given x.traceback
  | _ => none

structure Capped (m : ℕ) (text : String) (o : OutputEventSchema) : Prop where
  whole : text.utf8ByteSize ≤ m → o.content = text ∧ o.truncated = false
  cut : m < text.utf8ByteSize → o.truncated = true ∧
    ∃ p : String, p.toList <+: text.toList ∧ p ≠ text ∧ p.utf8ByteSize ≤ m ∧ o.content = p ++ truncationMarker

def EmitsCapped (m : ℕ) (x : RawOutput) (outputType : OutputType) (text : String) : Prop :=
  ∃ o, (createOutputEvents m x).1.filter (fun o => o.outputType = outputType) = [o] ∧ Capped m text o

def Cuttable (m : ℕ) (text : String) : Prop :=
  text.utf8ByteSize ≤ m ∨ m < text.length ∧ (text.toList.take m).all isAscii = true

variable {m seq : ℕ} {x : RawOutput} {outputType : OutputType} {text : String} {p : Piece}

def Marked (p : Piece) : Prop := ∃ rest, p.metadata = ("truncated", jsonBool p.truncated) :: rest

lemma jsonObject_head (key : String) (v : Json) (rest : List (String × Json)) :
    ∃ tail, (jsonObject ((key, v) :: rest)).toList =
      '\x7b' :: ((jsonString key).toList ++ (": ".toList ++ (v.toList ++ tail))) := by
  cases rest with
  | nil => exact ⟨"\x7d".toList, by simp [jsonObject]⟩
  | cons f rest =>
    refine ⟨(", " ++ ", ".intercalate ((f :: rest).map fun q => jsonString q.1 ++ ": " ++ q.2) ++
      "\x7d").toList, ?_⟩
    simp [jsonObject]

lemma event_truncated (h : Marked p) : (event x seq p).truncated = p.truncated := by
  obtain ⟨rest, hp⟩ := h
  obtain ⟨tail, htail⟩ := jsonObject_head "truncated" (jsonBool p.truncated) rest
  have hm : (event x seq p).outputMetadata = some (jsonObject (("truncated", jsonBool p.truncated) :: rest)) := by
    rw [← hp]
    rfl
  rw [OutputEventSchema.truncated, hm, Option.any_some, htail]
  cases p.truncated with
  | false => rfl
  | true => rfl

lemma filter_numbered (x : RawOutput) (outputType : OutputType) (seq : ℕ) (ps : List Piece) :
    List.Forall₂ (fun p o => ∃ seq, o = event x seq p) (ps.filter fun p => p.outputType = outputType)
      ((numbered x seq ps).filter fun o => o.outputType = outputType) := by
  induction ps generalizing seq with
  | nil => exact .nil
  | cons p ps ih =>
    have hp : (event x seq p).outputType = p.outputType := rfl
    rw [numbered, List.filter_cons, List.filter_cons, hp]
    split
    · exact .cons ⟨seq, rfl⟩ (ih (seq + 1))
    · exact ih (seq + 1)

def pieceOf (m : ℕ) (x : RawOutput) : OutputType → String → Piece
  | .traceback, text => tracebackPiece m x.status text
  | .stderr, text => streamPiece m .stderr "stderr" text
  | outputType, text => streamPiece m outputType "stdout" text

lemma given_some {text : Option String} {s : String} (h : given text = some s) : text = some s ∧ s ≠ "" := by
  obtain ⟨ht, hs⟩ := Option.filter_eq_some_iff.mp h
  exact ⟨ht, by simpa using hs⟩

lemma filter_of_type {ps : List Piece} {own : OutputType} (h : ∀ p ∈ ps, p.outputType = own) :
    ps.filter (fun p => p.outputType = outputType) = if outputType = own then ps else [] := by
  by_cases ho : outputType = own
  · rw [if_pos ho, List.filter_eq_self]
    intro p hp
    exact decide_eq_true ((h p hp).trans ho.symm)
  · rw [if_neg ho, List.filter_eq_nil_iff]
    intro p hp he
    exact ho ((of_decide_eq_true he).symm.trans (h p hp))

lemma pieces_filter (h : streamText x outputType = some text) :
    (pieces m x).filter (fun p => p.outputType = outputType) = [pieceOf m x outputType text] := by
  have hout : ∀ p ∈ (if x.stdout = "" then [] else [streamPiece m .stdout "stdout" x.stdout]),
      p.outputType = .stdout := by
    split <;> simp [streamPiece]
  have herr : ∀ p ∈ (if x.stderr = "" then [] else [streamPiece m .stderr "stderr" x.stderr]),
      p.outputType = .stderr := by
    split <;> simp [streamPiece]
  have htrace : ∀ p ∈ ((given x.traceback).map (tracebackPiece m x.status)).toList, p.outputType = .traceback := by
    cases given x.traceback <;> simp [tracebackPiece]
  have hresult : ∀ p ∈ (if hasResult x then [resultPiece] else []), p.outputType = .result := by
    split <;> simp [resultPiece]
  rw [pieces, List.filter_append, List.filter_append, List.filter_append, filter_of_type hout,
    filter_of_type herr, filter_of_type htrace, filter_of_type hresult]
  cases outputType with
  | stdout =>
    obtain ⟨ht, hne⟩ := given_some h
    cases ht
    simp [hne, pieceOf]
  | stderr =>
    obtain ⟨ht, hne⟩ := given_some h
    cases ht
    simp [hne, pieceOf]
  | traceback =>
    have hg : given x.traceback = some text := h
    simp [hg, pieceOf]
  | result => cases h
  | error => cases h
  | text => cases h

lemma pieceOf_marked : Marked (pieceOf m x outputType text) := by
  cases outputType <;> exact ⟨[_], rfl⟩

lemma pieceOf_content : (pieceOf m x outputType text).content = (truncateIfNeeded m text).1 := by
  cases outputType <;> rfl

lemma pieceOf_truncated : (pieceOf m x outputType text).truncated = (truncateIfNeeded m text).2 := by
  cases outputType <;> rfl

lemma capped_iff {o : OutputEventSchema} (hc : o.content = (truncateIfNeeded m text).1)
    (ht : o.truncated = (truncateIfNeeded m text).2) : Capped m text o ↔ Cuttable m text := by
  rw [truncateIfNeeded] at hc ht
  by_cases hm : m < text.utf8ByteSize
  · rw [if_pos hm] at hc ht
    constructor
    · intro h
      obtain ⟨-, p, hp, hne, hsize, hcontent⟩ := h.cut hm
      have hcut : p ++ truncationMarker = String.ofList (text.toList.take m) ++ truncationMarker :=
        hcontent.symm.trans hc
      obtain rfl := (String.append_left_inj _).mp hcut
      have hlen : m < text.toList.length := by
        by_contra hle
        apply hne
        rw [List.take_of_length_le (Nat.not_lt.mp hle), String.ofList_toList]
      rw [utf8ByteSize_ofList] at hsize
      rw [String.length_toList] at hlen
      exact Or.inr ⟨hlen, (size_take (String.length_toList ▸ hlen.le)).mp hsize⟩
    · rintro (hle | ⟨hlen, hascii⟩)
      · exact absurd hm (Nat.not_lt.mpr hle)
      · rw [← String.length_toList] at hlen
        refine ⟨fun hle => absurd hm (Nat.not_lt.mpr hle), fun _ =>
          ⟨ht, String.ofList (text.toList.take m), ?_, ?_, ?_, hc⟩⟩
        · rw [String.toList_ofList]
          exact List.take_prefix m _
        · intro he
          have hl := congrArg (fun s => s.toList.length) he
          simp only [String.toList_ofList, List.length_take] at hl
          omega
        · rw [utf8ByteSize_ofList]
          exact (size_take hlen.le).mpr hascii
  · rw [if_neg hm] at hc ht
    exact iff_of_true ⟨fun _ => ⟨hc, ht⟩, fun h => absurd h hm⟩ (Or.inl (Nat.not_lt.mp hm))

lemma emitsCapped_iff (h : streamText x outputType = some text) :
    EmitsCapped m x outputType text ↔ Cuttable m text := by
  have hf := filter_numbered x outputType 1 (pieces m x)
  rw [pieces_filter h] at hf
  obtain ⟨o, l, ⟨seq, rfl⟩, hnil, hl⟩ := List.forall₂_cons_left_iff.mp hf
  cases hnil
  have hc : Capped m text (event x seq (pieceOf m x outputType text)) ↔ Cuttable m text :=
    capped_iff pieceOf_content ((event_truncated pieceOf_marked).trans pieceOf_truncated)
  constructor
  · rintro ⟨o, ho, hcap⟩
    cases hl.symm.trans ho
    exact hc.mp hcap
  · intro hcut
    exact ⟨_, hl, hc.mpr hcut⟩

lemma pieces_marked {q : Piece} (hq : q ∈ pieces m x) : Marked q := by
  rw [pieces, List.mem_append, List.mem_append, List.mem_append] at hq
  rcases hq with ((hq | hq) | hq) | hq
  · split at hq
    · cases hq
    · rw [List.mem_singleton.mp hq]
      exact ⟨[_], rfl⟩
  · split at hq
    · cases hq
    · rw [List.mem_singleton.mp hq]
      exact ⟨[_], rfl⟩
  · rw [Option.mem_toList, Option.map_eq_some_iff] at hq
    obtain ⟨t, -, rfl⟩ := hq
    exact ⟨[_], rfl⟩
  · split at hq
    · rw [List.mem_singleton.mp hq]
      exact ⟨[], rfl⟩
    · cases hq

lemma numbered_truncated {ps : List Piece} (h : ∀ p ∈ ps, Marked p) (seq : ℕ) :
    (numbered x seq ps).any OutputEventSchema.truncated = ps.any Piece.truncated := by
  induction ps generalizing seq with
  | nil => rfl
  | cons p ps ih =>
    have hrest := ih (fun q hq => h q (List.mem_cons_of_mem p hq)) (seq + 1)
    rw [numbered, List.any_cons, List.any_cons, event_truncated (h p List.mem_cons_self), hrest]

structure CapsOutput (m : ℕ) (x : RawOutput) : Prop where
  streams : ∀ outputType text, streamText x outputType = some text → EmitsCapped m x outputType text
  metrics : (createOutputEvents m x).2.truncated = true ↔
    ∃ o ∈ (createOutputEvents m x).1, o.truncated = true

theorem output_cap_iff (m : ℕ) (x : RawOutput) :
    CapsOutput m x ↔ ∀ outputType text, streamText x outputType = some text → Cuttable m text := by
  constructor
  · intro h outputType text ht
    exact (emitsCapped_iff ht).mp (h.streams outputType text ht)
  · intro h
    constructor
    case streams =>
      intro outputType text ht
      exact (emitsCapped_iff ht).mpr (h outputType text ht)
    case metrics =>
      have hmarked : ∀ p ∈ pieces m x, Marked p := fun p => pieces_marked
      change (pieces m x).any Piece.truncated = true ↔ ∃ o ∈ numbered x 1 (pieces m x), o.truncated = true
      rw [← numbered_truncated hmarked 1, List.any_eq_true]

def accents : RawOutput := { executionId := "e", sessionId := "s", stdout := "ééé" }

theorem letters_above_limit :
    (createOutputEvents 2 accents).1.map (fun o => (o.outputType, o.content)) =
        [(.stdout, "éé" ++ truncationMarker)] ∧
      "éé".utf8ByteSize = 4 ∧ ¬ CapsOutput 2 accents := by
  refine ⟨by decide +kernel, by decide +kernel, fun h => ?_⟩
  have ht : streamText accents .stdout = some "ééé" := rfl
  rcases (emitsCapped_iff ht).mp (h.streams .stdout "ééé" ht) with hsize | ⟨-, hascii⟩
  · exact absurd hsize (by decide +kernel)
  · exact absurd hascii (by decide +kernel)

end NotebookExecution.Output
