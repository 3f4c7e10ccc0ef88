import ConnectionPool.Session.Basic

/-!
# Commands about statements

Using, closing and inspecting the statements that a client holds, and the commands that go to
the driver itself.
-/

set_option autoImplicit false

namespace ConnectionPool

namespace Session

/-- A view of a statement. -/
def statementReport (w : World) (held : Held) : StatementReport :=
  match held.origin with
  | .facade =>
      .facade ((held.statement.tracked?.bind Tracked.key).map CacheKey.render)
        held.statement.describe
  | .loose =>
      match held.statement.target? with
      | none => .hidden
      | some id =>
          let statement := w.driver.statement id
          .loose id statement.sql (statement.parameters.map fun value => value.map Arg.render)
  | _ => .hidden

/-- Do a command about statements. -/
def runStatement (s : Session) : StatementCommand → Outcome
  | .bind name position value =>
      s.withStatement name fun held =>
        let (w, result) := s.world.bind held.statement position value
        (s.inWorld w, .ofDriver result)
  | .clearParameters name =>
      s.withStatement name fun held =>
        let (w, result) := s.world.clearParameters held.statement
        (s.inWorld w, .ofDriver result)
  | .execute name =>
      s.withStatement name fun held =>
        match s.world.execute held.statement with
        | (w, .ok count) => (s.inWorld w, .count count)
        | (w, .error error) => (s.inWorld w, .driverError error)
  | .resultSet name =>
      s.withStatement name fun held =>
        match s.world.resultSet? held.statement with
        | none => (s, .nothing)
        | some state => (s, .resultSet state)
  | .closeResultSet name =>
      s.withStatement name fun held =>
        match s.world.closeResultSet held.statement with
        | (w, none) => (s.inWorld w, .nothing)
        | (w, some result) => (s.inWorld w, .ofDriver result)
  | .close name =>
      s.withStatement name fun held =>
        let (w, result) := World.close held.statement s.world
        ((s.inWorld w).putStatement name { held with statement := held.statement.afterClose },
          .ofDriver result)
  | .drop name =>
      s.withStatement name fun held =>
        ((s.inWorld (s.world.dropHandle held.statement)).takeStatement name, .done)
  | .forceClose name =>
      s.withStatement name fun held =>
        match held.origin with
        | .facade =>
            let (w, result) := s.world.forceCloseFacade held.statement
            ((s.inWorld w).putStatement name { held with statement := .spent }, .ofDriver result)
        | _ => (s, .notAFacade)
  | .inspect name =>
      s.withStatement name fun held => (s, .statement (statementReport s.world held))

/-- A view of the driver's log. -/
def logReport (log : DriverLog) (statement : Option StatementId) : LogReport where
  prepared := log.preparationCount
  closed := log.closings.mergeSort
  lastExecuted := log.latestExecution?
  closedConnections := log.hangUpCount
  isClosed := statement.map log.hasClosed
  description := log.describe

/-- Keep the statement that the driver has made, or reply with the driver's error. -/
def keepDriverStatement (s : Session) (save : Option Name)
    (made : World × Except DriverError StatementId) : Outcome :=
  match made with
  | (w, .error error) => (s.inWorld w, .driverError error)
  | (w, .ok id) => ((s.inWorld w).keepStatement save (.physical id) .driver, .done)

/-- Do a command of the driver. -/
def runDriver (s : Session) : DriverCommand → Outcome
  | .looseStatement sql save =>
      s.withFreshStatement save fun _ =>
        let (w, id) := s.world.onDriver fun driver => driver.looseStatement sql
        ((s.inWorld w).keepStatement save (.physical id) .loose, .done)
  | .openConnection save =>
      s.withFresh save (s.raw.contains save) fun _ =>
        let (w, id) := s.world.onDriver Driver.openConnection
        ({ s.inWorld w with raw := s.raw.insert save id }, .count id)
  | .prepareStatement name args save =>
      s.withFreshStatement save fun _ =>
        s.withRaw name fun id =>
          s.keepDriverStatement save
            (s.world.onDriver fun driver => driver.prepareStatement id args)
  | .prepareCall name args save =>
      s.withFreshStatement save fun _ =>
        s.withRaw name fun id =>
          s.keepDriverStatement save (s.world.onDriver fun driver => driver.prepareCall id args)
  | .createStatement name save =>
      s.withFreshStatement save fun _ =>
        s.withRaw name fun id =>
          s.keepDriverStatement save (s.world.onDriver fun driver => driver.createStatement id)
  | .isValid name => s.withRaw name fun id => (s, .truth (s.world.driver.isValid id))
  | .close name =>
      s.withRaw name fun id =>
        let (w, _) := s.world.onDriver fun driver => (driver.closeConnection id, ())
        (s.inWorld w, .done)
  | .inspectLog statement => (s, .log (logReport s.world.driver.log statement))

end Session

end ConnectionPool
