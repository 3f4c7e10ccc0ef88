import ConnectionPool.Session.Basic

/-!
# Commands about caches

A client can hold caches of its own, attach them to the connections of pools and move tracked
statements through them by hand. Several names may stand for one cache; when the last of them
is given up the cache is detached, and what it tracked is closed rather than parked.
-/

set_option autoImplicit false

namespace ConnectionPool

namespace Session

/-- A view of a cache. -/
def cacheReport (w : World) (k : CacheId) : CacheReport where
  name := cachingName
  stats := w.cacheStats k
  description := w.describeCache k
  standard := (w.cache k).policy == {}

/-- Go on with the statement that a source stands for, which leaves the client's hands. -/
def withSource (s : Session) (source : StatementSource)
    (continue_ : Session → Statement → Outcome) : Outcome :=
  match source with
  | .held name =>
      s.withStatement name fun held => continue_ (s.takeStatement name) held.statement
  | .fresh sql =>
      let (w, id) := s.world.onDriver fun driver => driver.looseStatement sql
      continue_ (s.inWorld w) (.physical id)

/-- Give up a name of a cache. -/
def dropCache (s : Session) (name : Name) (k : CacheId) : Session :=
  let caches := s.caches.erase name
  if caches.entries.any fun entry => entry.2 == k then { s with caches }
  else { s with caches, world := s.world.detach k }

/-- Do a command about caches. -/
def runCache (s : Session) : CacheCommand → Outcome
  | .create save request fallible =>
      s.withFresh save (s.caches.contains save) fun _ =>
        match request.read with
        | .error error => (s, .poolError error)
        | .ok policy =>
            let (w, k) := s.world.newCache policy fallible
            ({ s.inWorld w with caches := s.caches.insert save k }, .done)
  | .clone cache save =>
      s.withFresh save (s.caches.contains save) fun _ =>
        s.withCache cache fun k => ({ s with caches := s.caches.insert save k }, .done)
  | .drop cache => s.withCache cache fun k => (s.dropCache cache k, .done)
  | .poolStarted pool cache =>
      s.withPool pool fun p =>
        s.withCache cache fun _ => (s.inWorld (s.world.startCounting p), .done)
  | .poolClosed pool cache =>
      s.withPool pool fun p =>
        s.withCache cache fun _ => (s.inWorld (s.world.stopCounting p), .done)
  | .attach pool cache via =>
      s.withPool pool fun p =>
        s.withCache cache fun k =>
          s.withConnection via fun c => (s.inWorld (s.world.attach k p c), .done)
  | .drain pool cache via =>
      s.withPool pool fun p =>
        s.withCache cache fun k =>
          s.withConnection via fun c => (s.inWorld (s.world.drain k p c), .done)
  | .detach cache => s.withCache cache fun k => (s.inWorld (s.world.detach k), .done)
  | .keyFor cache request =>
      s.withCache cache fun k =>
        s.withCall request fun call =>
          match (s.world.cache k).policy.keyFor call with
          | none => (s, .nothing)
          | some key => (s, .text key.render)
  | .fetch cache request save =>
      s.withFreshTracked save fun _ =>
        s.withCache cache fun k =>
          s.withCall request fun call =>
            match s.world.fetch k call with
            | (w, .error error) => (s.inWorld w, .poolError error)
            | (w, .ok none) => (s.inWorld w, .miss)
            | (w, .ok (some tracked)) => ((s.inWorld w).keepTracked save tracked, .hit)
  | .track cache request source save =>
      s.withFreshTracked (some save) fun _ =>
        s.withCache cache fun k =>
          s.withCall request fun call =>
            s.withSource source fun s statement =>
              let key := (s.world.cache k).policy.keyFor call
              (s.keepTracked (some save) (World.track k key statement), .done)
  | .wrapPrepared cache request source save =>
      s.withFreshStatement save fun _ =>
        s.withCache cache fun k =>
          s.withCall request fun call =>
            s.withSource source fun s statement =>
              match s.world.wrapPrepared k statement call with
              | (w, .error error) => (s.inWorld w, .driverError error)
              | (w, .ok facade) => ((s.inWorld w).keepStatement save facade (.cache k), .done)
  | .offer cache name keep =>
      s.withCache cache fun k =>
        s.withTracked name fun tracked =>
          match s.world.offer k tracked with
          | (w, none) => ((s.inWorld w).takeTracked name, .admitted)
          | (w, some reason) =>
              if keep then (s.inWorld w, .rejected reason)
              else ((s.inWorld (w.dropTracked tracked)).takeTracked name, .rejected reason)
  | .withdraw cache request save =>
      s.withFreshTracked save fun _ =>
        s.withCache cache fun k =>
          s.withCall request fun call =>
            match CacheKey.ofCall? call with
            | none => (s, .noKey)
            | some key =>
                match s.world.withdraw k key with
                | (w, none) => (s.inWorld w, .absent)
                | (w, some tracked) => ((s.inWorld w).keepTracked save tracked, .evicted)
  | .inspect cache => s.withCache cache fun k => (s, .cache (cacheReport s.world k))

/-- Do a command about tracked statements. -/
def runTracked (s : Session) : TrackedCommand → Outcome
  | .close name =>
      s.withTracked name fun tracked =>
        ((s.inWorld (s.world.closeTracked tracked)).takeTracked name, .done)
  | .forceClose name =>
      s.withTracked name fun tracked =>
        let (w, result) := s.world.forceClose tracked
        ((s.inWorld w).takeTracked name, .ofDriver result)
  | .drop name =>
      s.withTracked name fun tracked =>
        ((s.inWorld (s.world.dropTracked tracked)).takeTracked name, .done)
  | .inspect name => s.withTracked name fun tracked => (s, .text tracked.describe)
  | .bind name position value =>
      s.withTracked name fun tracked =>
        let (w, result) := s.world.bind tracked.delegate position value
        (s.inWorld w, .ofDriver result)
  | .execute name =>
      s.withTracked name fun tracked =>
        match s.world.execute tracked.delegate with
        | (w, .ok count) => (s.inWorld w, .count count)
        | (w, .error error) => (s.inWorld w, .driverError error)
  | .closeDelegate name =>
      s.withTracked name fun tracked =>
        let (w, result) := World.close tracked.delegate s.world
        let tracked := { tracked with delegate := tracked.delegate.afterClose }
        ({ s.inWorld w with tracked := s.tracked.insert name tracked }, .ofDriver result)
  | .facade name save =>
      s.withFreshStatement save fun _ =>
        s.withTracked name fun tracked =>
          ((s.takeTracked name).keepStatement save tracked.facade .facade, .done)

end Session

end ConnectionPool
