import Hostkeeper.Host.World
import Hostkeeper.Reconcile.Report
import Hostkeeper.Schema.Record

/-! Host-wide settings: host name, time zone and log level. Each one that is set is applied whatever becomes of
the others. -/
namespace Hostkeeper

/-- What can change the log level: the answer to a level, given how many times it was asked before. -/
abbrev LevelControl := Nat → LogLevel → Except String Unit

structure LevelState where
  asked : Nat := 0
  applied : Option LogLevel := none
  taken : List LogLevel := []

structure SystemApplier where
  tools : Tools
  timezoneFile : String
  control : Option LevelControl

namespace SystemApplier

def applyHostname (a : SystemApplier) (settings : SystemSettings) (report : SyncReport) (h : Host) :
    SyncReport × Host :=
  match settings.hostname.bind Text.trimmed? with
  | none => (report,h)
  | some hostname =>
    match h.runChecked a.tools ⟨"hostname",[hostname]⟩ with
    | (.ok _,h) => (report.recordApplied,h)
    | (.error e,h) => (report.recordFailure "System.hostname" e.message,h)

/-- Brings the time zone file to the given time zone. It is written only if it differs, and whether it was is told. -/
def writeTimezone (path timezone : String) (h : Host) : Except OsError (Bool × Host) :=
  let content := timezone ++ "\n"
  let written := (h.write path (Text.Utf8.encode content)).map fun h => (true,h)
  match h.files.readText path with
  | .ok current => if current = content then .ok (false,h) else written
  | .error .notFound => written
  | .error e => .error e

def applyTimezone (a : SystemApplier) (settings : SystemSettings) (report : SyncReport) (h : Host) :
    SyncReport × Host :=
  match settings.timezone.bind Text.trimmed? with
  | none => (report,h)
  | some timezone =>
    match writeTimezone a.timezoneFile timezone h with
    | .ok (_,h) => (report.recordApplied,h)
    | .error e => (report.recordFailure "System.timezone" e.message,h)

def applyLevel (a : SystemApplier) (settings : SystemSettings) (report : SyncReport) (s : LevelState) :
    SyncReport × LevelState :=
  match settings.loggingLevel, a.control with
  | some level, some control =>
    if s.applied = some level then (report,s)
    else
      match control s.asked level with
      | .ok () =>
        (report.recordApplied,⟨s.asked + 1,some level,s.taken ++ [level]⟩)
      | .error e => (report.recordFailure "System.logging_level" e,{s with asked := s.asked + 1})
  | _, _ => (report,s)

def apply (a : SystemApplier) (settings : SystemSettings) (report : SyncReport) (s : LevelState) (h : Host) :
    SyncReport × LevelState × Host :=
  let (report,h) := a.applyHostname settings report h
  let (report,h) := a.applyTimezone settings report h
  let (report,s) := a.applyLevel settings report s
  (report,s,h)

end SystemApplier

end Hostkeeper
