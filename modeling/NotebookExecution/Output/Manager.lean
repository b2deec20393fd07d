import NotebookExecution.Output.Repositories

/-! The output manager: the events made of one execution's output, and what is published and stored. -/

namespace NotebookExecution.Output

open Library.Transaction Library.Table Store

structure OutputMetricsSchema where
  executionId : String
  totalEvents : ℕ
  stdoutCount : ℕ
  stderrCount : ℕ
  resultPresent : Bool
  tracebackPresent : Bool
  truncated : Bool
  executionTimeMs : String

structure RawOutput where
  executionId : String
  sessionId : String
  notebookId : Option Uuid := none
  cellId : Option String := none
  stdout : String := ""
  stderr : String := ""
  traceback : Option String := none
  status : String := "ok"
  executionTimeMs : String := "0.0"

namespace OutputManager

def defaultMaxOutputSize : ℕ := 100000

def truncateIfNeeded (maxOutputSize : ℕ) (text : String) : String × Bool :=
  -- The limit counts the bytes of the text, and the cut its characters.
  if maxOutputSize < text.utf8ByteSize then
    (String.ofList (text.toList.take maxOutputSize) ++ "\n[OUTPUT TRUNCATED - SIZE LIMIT EXCEEDED]", true)
  else (text, false)

def jsonChar (c : Char) : List Char :=
  if c = '"' then ['\\', '"']
  else if c = '\\' then ['\\', '\\']
  else if c.toNat < 0x20 then
    ['\\', 'u', '0', '0', Nat.digitChar (c.toNat / 16), Nat.digitChar (c.toNat % 16)]
  else [c]

def jsonString (s : String) : Json := "\"" ++ String.ofList (s.toList.flatMap jsonChar) ++ "\""

def jsonBool (b : Bool) : Json := if b then "true" else "false"

def jsonObject (fields : List (String × Json)) : Json :=
  "\x7b" ++ ", ".intercalate (fields.map fun p => jsonString p.1 ++ ": " ++ p.2) ++ "\x7d"

structure Piece where
  outputType : OutputType
  content : String
  truncated : Bool
  metadata : List (String × Json)

def streamPiece (maxOutputSize : ℕ) (outputType : OutputType) (stream text : String) : Piece :=
  let (content, truncated) := truncateIfNeeded maxOutputSize text
  ⟨outputType, content, truncated, [("truncated", jsonBool truncated), ("stream", jsonString stream)]⟩

def tracebackPiece (maxOutputSize : ℕ) (status text : String) : Piece :=
  let (content, truncated) := truncateIfNeeded maxOutputSize text
  ⟨.traceback, content, truncated, [("truncated", jsonBool truncated), ("status", jsonString status)]⟩

def resultPiece : Piece := ⟨.result, "Success", false, [("truncated", jsonBool false)]⟩

def given (traceback : Option String) : Option String := traceback.filter (· ≠ "")

def hasResult (x : RawOutput) : Bool :=
  (x.status = "ok" || x.status = "succeeded") && x.stdout = "" && (given x.traceback).isNone

def pieces (maxOutputSize : ℕ) (x : RawOutput) : List Piece :=
  (if x.stdout = "" then [] else [streamPiece maxOutputSize .stdout "stdout" x.stdout]) ++
    (if x.stderr = "" then [] else [streamPiece maxOutputSize .stderr "stderr" x.stderr]) ++
    ((given x.traceback).map (tracebackPiece maxOutputSize x.status)).toList ++
    if hasResult x then [resultPiece] else []

def event (x : RawOutput) (sequence : ℕ) (p : Piece) : OutputEventSchema where
  executionId := x.executionId
  sessionId := x.sessionId
  notebookId := x.notebookId
  cellId := x.cellId
  outputType := p.outputType
  content := p.content
  sequence := sequence
  outputMetadata := some (jsonObject p.metadata)

def numbered (x : RawOutput) : ℕ → List Piece → List OutputEventSchema
  | _, [] => []
  | seq, p :: ps => event x seq p :: numbered x (seq + 1) ps

def createOutputEvents (maxOutputSize : ℕ) (x : RawOutput) : List OutputEventSchema × OutputMetricsSchema :=
  let ps := pieces maxOutputSize x
  (numbered x 1 ps,
    { executionId := x.executionId
      totalEvents := ps.length
      stdoutCount := if x.stdout = "" then 0 else 1
      stderrCount := if x.stderr = "" then 0 else 1
      resultPresent := hasResult x
      tracebackPresent := (given x.traceback).isSome
      truncated := ps.any Piece.truncated
      executionTimeMs := x.executionTimeMs })

example : (createOutputEvents 100000 { executionId := "e", sessionId := "s", stderr := "warn" }).1.map
    (fun o => (o.outputType, o.sequence)) = [(.stderr, 1), (.result, 2)] := by decide +kernel

/-- The part of `process_and_persist_events` that writes; publishing comes first and reads no row. -/
def persistEvents (events : List (Env × OutputEventSchema)) :
    Tx Database ServiceError (List ExecutionOutput) :=
  ExecutionOutputRepository.bulkCreate events

end OutputManager

end NotebookExecution.Output
