import Sensorium.Session.Load

/-!
# Running a session

`Session.run` does tasks until none is left, and always ends. `Session.respond` makes a
call and collects what came of it.
-/

namespace Sensorium

namespace Session

/-- Does tasks until none is left. -/
def run (s : Session) : Session :=
  match _h : s.tasks with
  | [] => s
  | _ :: _ => s.step.run
termination_by s.load
decreasing_by exact load_step _h

theorem run_of_no_tasks {s : Session} (h : s.tasks = []) : s.run = s := by
  rw [run]
  split
  · rfl
  · rename_i found
    rw [h] at found
    cases found

theorem run_of_tasks {s : Session} {task : Task} {rest : List Task} (h : s.tasks = task :: rest) :
    s.run = s.step.run := by
  rw [run]
  split
  · rename_i found
    rw [h] at found
    cases found
  · rfl

theorem tasks_run (s : Session) : s.run.tasks = [] := by
  fun_induction run s with
  | case1 s h => exact h
  | case2 s task rest h ih => exact ih

/-- Makes a call the only thing there is to do. -/
def ask (s : Session) (call : Call) : Session :=
  { s with answers := [], log := [], tasks := [.call call] }

/-- What came of a call: its answer, what was noted, and how the device is left. -/
structure Response where
  answer : Answer
  changing : Bool
  time : Nanos
  log : List Entry
  deriving DecidableEq, Repr

/-- Makes a call, and everything that observers do because of it. -/
def respond (s : Session) (call : Call) : Session × Response :=
  let s := (s.ask call).run
  (s, { answer := s.answers.headD .done
        changing := s.device.changing
        time := s.device.time
        log := s.log.reverse })

def respondAll (s : Session) : List Call → Session × List Response
  | [] => (s, [])
  | call :: rest =>
    let (s, response) := s.respond call
    let (s, responses) := s.respondAll rest
    (s, response :: responses)

/-- Replaces the device, with everything else kept. The old one loses its observer, also
    when there is no new one to replace it. -/
def replaceDevice (s : Session) : Option Device → Session
  | some device => { s with device }
  | none => { s with device := { s.device with observer := none } }

end Session

end Sensorium
