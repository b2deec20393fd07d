import NotebookExecution.Library.Calendar
import NotebookExecution.Library.Text

/-! When a job runs next: validation of time zones and cron expressions, and the time that
`calculate_next_run` finds. The zone database and croniter come from outside. -/

namespace NotebookExecution.Jobs

open Library.Calendar Library.Text

inductive JobFailure
  | notFound (jobId : String)
  | validation (details : String)
  | scheduleValidation (details : String)
  | concurrency (jobId : String)
  | cancellation (jobId details : String)
  | executionManager (message : String)
  | attributeError (message : String)
  | valueError (message : String)
  | overflowError (message : String)
  | multipleResults
  | missingGreenlet
  | integrityError
  deriving DecidableEq

def JobFailure.text : JobFailure → String
  | .notFound k => "Job '" ++ k ++ "' not found."
  | .validation details => "Job validation failed: " ++ details
  | .scheduleValidation details => "Schedule validation failed: " ++ details
  | .concurrency k =>
    "Job '" ++ k ++ "' is already running and PREVENT_OVERLAP concurrency policy is active."
  | .cancellation k details => "Failed to cancel job '" ++ k ++ "': " ++ details
  | .executionManager message | .attributeError message | .valueError message
  | .overflowError message => message
  | .multipleResults => "Multiple rows were found when one or none was required"
  | .missingGreenlet => "greenlet_spawn has not been called; can't call await_only() here."
  | .integrityError => "UNIQUE constraint failed: jobs.name"

inductive ZoneInfoError
  | notFound
  | malformed (message : String)
  deriving DecidableEq

/-- For an expression it accepts, `get_next` answers with the earliest fitting time after the start
on the clocks of the start's own zone, and raises when there is none. -/
structure Croniter where
  accepts : String → Option (ℤ → Bool)
  getNext : String → DateTime → Option DateTime
  getNext_least : ∀ c s d, getNext c s = some d →
    ∃ m, accepts c = some m ∧ IsLeast (s.zone.after m s.instant) d.instant
  getNext_isSome : ∀ c s m, accepts c = some m → (s.zone.after m s.instant).Nonempty →
    (getNext c s).isSome = true

structure Environment where
  zoneInfo : String → Except ZoneInfoError Zone
  croniter : Croniter

def utc : Zone := Zone.fixed 0

def validateTimezone (E : Environment) (tzName : String) : Except JobFailure Bool :=
  if tzName = "" then .ok false
  else
    match E.zoneInfo tzName with
    | .ok _ => .ok true
    | .error .notFound => .ok false
    | .error (.malformed message) => .error (.valueError message)

def isSpan (l : List Char) : Bool :=
  -- `[0-9]+(-[0-9]+)?`
  match l.splitOn '-' with
  | [a] => isNumber a
  | [a, b] => isNumber a && isNumber b
  | _ => false

def isStepped (item : List Char → Bool) (l : List Char) : Bool :=
  -- `item(/[0-9]+)?`
  match l.splitOn '/' with
  | [a] => item a
  | [a, k] => item a && isNumber k
  | _ => false

def isField (l : List Char) : Bool :=
  -- The pattern of a field: only its first item may be `*`.
  match l.splitOn ',' with
  | head :: items =>
    isStepped (fun a => decide (a = ['*']) || isSpan a) head && items.all (isStepped isSpan)
  | [] => false

def validateCronExpression (cronStr : String) : Bool :=
  decide (cronStr ≠ "") && decide ((words cronStr).length = 5) && (words cronStr).all isField

example : validateCronExpression "*/5,10-20/2 2 1,15 * 1-5" = true := by decide
example : validateCronExpression "0 2 * *" = false := by decide
example : validateCronExpression "1,* 2 * * *" = false := by decide

/-- `base_time`: without a zone it is read on the clocks of the job's zone. -/
inductive BaseTime
  | aware (d : DateTime)
  | naive (reading : ℤ)

def BaseTime.start (z : Zone) : BaseTime → DateTime
  | .aware d => d
  | .naive reading => ⟨z, reading, false⟩

def minuteStep (spec : List Char) : ℕ :=
  if spec.contains '/' then ((spec.splitOn '/')[1]?.bind int).getD 1
  else if spec ≠ ['*'] then ((spec.splitOn ',')[0]?.bind int).elim 1 (max 1)
  else 1

def fallbackStep (cronStr : String) : ℕ := ((words cronStr)[0]?.map minuteStep).getD 1

def representable (reading : ℤ) : Bool :=
  decide (-62135596800000000 ≤ reading ∧ reading < 253402300800000000)

def fallback (cronStr : String) (start : DateTime) : Except JobFailure DateTime :=
  let d := start.plus (fallbackStep cronStr * 60000000)
  if representable d.reading then .ok d else .error (.overflowError "date value out of range")

def calculateNextRun (E : Environment) (now : ℤ) (cronStr : Option String) (tzName : String)
    (baseTime : Option BaseTime) : Except JobFailure (Option DateTime) := do
  match cronStr with
  | none => pure none
  | some cron =>
    if cron = "" then pure none
    else if !(← validateTimezone E tzName) then
      throw (.scheduleValidation ("Invalid timezone identifier '" ++ tzName ++ "'."))
    else if !validateCronExpression cron then
      throw (.scheduleValidation ("Invalid 5-part cron expression '" ++ cron ++ "'."))
    else
      match E.zoneInfo tzName with
      | .error _ => throw (.valueError tzName)
      | .ok tz =>
        let start := (baseTime.getD (.aware (tz.at now))).start tz
        match E.croniter.getNext cron start with
        | some d => pure (some d)
        | none => do pure (some (← fallback cron start))

end NotebookExecution.Jobs
