import ConnectionPool.Session.Caches
import ConnectionPool.Session.Pools
import ConnectionPool.Session.Statements

/-!
# Running commands

`Session.run` does one command, `Session.runAll` a list of them, and `Session.replies` lists
what a client sees of it. `Session.happenings` is what the driver and the interceptors did in
between.
-/

set_option autoImplicit false

namespace ConnectionPool

/-- The driver's faults with one of them switched. -/
def Switch.onFaults (switch : Switch) (faults : Faults) : Faults :=
  match switch with
  | statementClosing sql => { faults with statementClosing := sql :: faults.statementClosing }
  | clearing fails => { faults with clearing := fails }
  | resultSetClosing fails => { faults with resultSetClosing := fails }
  | validity valid => { faults with validity := !valid }
  | connectionClosing fails => { faults with connectionClosing := fails }
  | connect count => { faults with connect := count }
  | wrap _ => faults

/-- The world with a fault switched. -/
def World.switch (w : World) (switch : Switch) : World :=
  { w with
    driver := { w.driver with faults := switch.onFaults w.driver.faults }
    wrapFaults := match switch with
      | .wrap count => count
      | _ => w.wrapFaults }

namespace Session

/-- **Do a command.** -/
def run (s : Session) : Command → Outcome
  | .advance span => (s.inWorld { s.world with now := s.world.now + span }, .done)
  | .switch fault => (s.inWorld (s.world.switch fault), .done)
  | .pool command => s.runPool command
  | .connection command => s.runConnection command
  | .statement command => s.runStatement command
  | .driver command => s.runDriver command
  | .cache command => s.runCache command
  | .tracked command => s.runTracked command

/-- The session after a list of commands. -/
def runAll (s : Session) (commands : List Command) : Session :=
  commands.foldl (fun s command => (s.run command).1) s

/-- The replies to a list of commands done one after the other. -/
def replies (s : Session) : List Command → List Reply
  | [] => []
  | command :: rest =>
      let (s, reply) := s.run command
      reply :: s.replies rest

/-- What happened while a session went from one state to a later one. -/
def happenings (earlier later : Session) : List Happening :=
  World.happeningsSince earlier.world later.world

end Session

end ConnectionPool
