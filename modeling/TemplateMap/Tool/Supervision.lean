import TemplateMap.Failure
import TemplateMap.Text.Utf8
import TemplateMap.Tool.Status

/-! Supervision of a started tool: which outcome the order of events leads to, and how the child is
left behind.  The output is read to its end or to one byte past the limit; then the end of the child
is awaited.  Whatever ends the supervision, the child has been waited for. -/

namespace TemplateMap.Tool

/-- Something that becomes visible while a tool runs. -/
inductive Sighting
  /-- The output has been read: to its end, or to one byte past the limit. -/
  | outputRead (bytes : Bytes)
  | readFailed (reason : Text)
  | exited (status : Status)
  /-- The child cannot be asked whether it has exited. -/
  | waitFailed (reason : Text)
  | deadline
  | cancelled
  deriving DecidableEq

/-- Something done to the child. -/
inductive Action
  | kill
  | wait
  deriving DecidableEq, Repr

/-- What a supervision may take: the name of the program, its time, and its output in bytes. -/
structure Terms where
  program : Text
  timeout : Milliseconds
  limit : Nat

/-- How a supervision ended. -/
structure Ending where
  result : Except ToolError Text
  actions : List Action

/-- What is known during a supervision. -/
inductive Watch
  /-- The output is being read; the child may have been seen to exit. -/
  | reading (status : Option Status)
  /-- The output has been read and the child has not been seen to exit. -/
  | closing (output : Bytes)
  | done (ending : Ending)

namespace Watch

/-- The end of a supervision that gives up on the child. -/
def abandoned (e : ToolError) : Watch := .done ⟨.error e, [.kill, .wait]⟩

/-- The end of a supervision whose child has exited after its output was read. -/
def finished (terms : Terms) (output : Bytes) (status : Status) : Watch :=
  .done
    ⟨if status.isSuccess then .ok (Utf8.decodeLossy output)
      else .error (.failed terms.program status.shown), [.wait]⟩

/-- What is known after one more sighting. -/
def step (terms : Terms) : Watch → Sighting → Watch
  | .done ending, _ => .done ending
  | _, .deadline => abandoned (.timedOut terms.program terms.timeout)
  | _, .cancelled => abandoned (.cancelled terms.program)
  | .reading _, .readFailed reason => abandoned (.unreadable reason)
  | .reading _, .exited status => .reading (some status)
  | .reading status, .waitFailed _ => .reading status
  | .reading status, .outputRead output =>
    if terms.limit < output.length then
      abandoned (.outputTooLarge terms.program terms.limit)
    else
      match status with
      | some status => finished terms output status
      | none => .closing output
  | .closing output, .exited status => finished terms output status
  | .closing _, .waitFailed reason => abandoned (.unreadable reason)
  | .closing output, .outputRead _ => .closing output
  | .closing output, .readFailed _ => .closing output

end Watch

/-- What the reader gives of an output: all of it, or one byte more than the limit. -/
def readable (limit : Nat) (output : Bytes) : Bytes := output.take (limit + 1)

/-- What is known after a sequence of sightings. -/
def watch (terms : Terms) (sightings : List Sighting) : Watch :=
  sightings.foldl (Watch.step terms) (.reading none)

/-- How a supervision ends, if the sightings end it. -/
def supervise (terms : Terms) (sightings : List Sighting) : Option Ending :=
  match watch terms sightings with
  | .done ending => some ending
  | _ => none

end TemplateMap.Tool
