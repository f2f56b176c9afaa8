import VdeTmux.Category.Model
import VdeTmux.Daemon.StatusSnapshot

/-!
# Navigation between categories

The session a client was last in is remembered for each category in a global option of tmux, and
going to a category goes back to it. Of the sessions only what navigation reads is kept.
-/

open Foundation VdeTmux.Category VdeTmux.Daemon
namespace VdeTmux.Session

structure SessionInfo where
  name : String
  id : String
deriving DecidableEq

inductive Direction
  | next
  | previous
deriving DecidableEq

structure ResolvedSessionCategories where
  bySessionId : Std.ExtTreeMap String CategoryName

def sessionIdentity (session : SessionInfo) : String :=
  if session.id = "" then s!"name:{session.name}" else s!"id:{session.id}"

def ResolvedSessionCategories.categoryFor (categories : ResolvedSessionCategories)
    (session : SessionInfo) : Except String CategoryName :=
  match categories.bySessionId[sessionIdentity session]? with
  | some category => .ok category
  | none => .error s!"category was not resolved for session {session.name}"

def ResolvedSessionCategories.sessionsInCategory (categories : ResolvedSessionCategories)
    (sessions : List SessionInfo) (category : String) : List SessionInfo :=
  sessions.filter fun session =>
    match categories.categoryFor session with
    | .ok resolved => resolved = category
    | .error _ => false

def findSession (sessions : List SessionInfo) (name : String) : Option SessionInfo :=
  sessions.find? fun session => session.name = name

abbrev GlobalOptions := Std.ExtTreeMap String String

def setGlobalOption (options : GlobalOptions) (key value : String) : GlobalOptions :=
  options.insert key value

def showGlobalOption (options : GlobalOptions) (key : String) : Option String :=
  let value := Text.trim (options[key]?.getD "")
  if value = "" then none else some value

def safeCategory (category : String) : List Char :=
  category.toList.map fun ch => if ch.isAlphanum || ch = '_' || ch = '-' then ch else '_'

def clientMemoryKey (clientName category : String) : String :=
  "@vde_client_" ++ String.ofList ((utf8 clientName).flatMap hexByte) ++ "_" ++
    String.ofList (safeCategory category)

def rememberSessionForClient (options : GlobalOptions) (clientName category sessionName : String) :
    GlobalOptions :=
  setGlobalOption options (clientMemoryKey clientName category) sessionName

def rememberedSessionForClient (options : GlobalOptions) (clientName category : String) :
    Option String :=
  showGlobalOption options (clientMemoryKey clientName category)

structure Remember where
  clientName : String
  category : String
  sessionName : String
deriving DecidableEq

def Remember.apply (options : GlobalOptions) (r : Remember) : GlobalOptions :=
  rememberSessionForClient options r.clientName r.category r.sessionName

def optionsAfter (calls : List Remember) : GlobalOptions := calls.foldl Remember.apply ∅

def exactSessionTarget (session : String) : String := "=" ++ session ++ ":"

def switchClientForClient (clientName session : String) : List String :=
  if Text.trim clientName = "" then ["switch-client", "-t", exactSessionTarget session]
  else ["switch-client", "-c", clientName, "-t", exactSessionTarget session]

def rememberedInCategory (options : GlobalOptions) (categories : ResolvedSessionCategories)
    (sessions : List SessionInfo) (category client : String) : Except String (Option String) :=
  match rememberedSessionForClient options client category with
  | none => .ok none
  | some remembered =>
    match findSession sessions remembered with
    | none => .ok none
    | some session =>
      (categories.categoryFor session).map fun resolved =>
        if resolved = category then some remembered else none

def useCategoryForClientFromSessions (options : GlobalOptions)
    (categories : ResolvedSessionCategories) (sessions : List SessionInfo)
    (category client : String) : Except String (List String) :=
  match rememberedInCategory options categories sessions category client with
  | .error error => .error error
  | .ok (some remembered) => .ok (switchClientForClient client remembered)
  | .ok none =>
    match (categories.sessionsInCategory sessions category).head? with
    | none => .error s!"no session in category: {category}"
    | some session => .ok (switchClientForClient client session.name)

def useCategoryForClientFromStatusSnapshot (options : GlobalOptions) (snapshot : StatusSnapshot)
    (category client : String) : Except String (List String) :=
  if snapshot.context ≠ .global then
    .error "category navigation requires a global daemon status snapshot"
  else
    match snapshot.sessions.filter fun session => session.category = some category with
    | [] => .error s!"no session in category: {category}"
    | first :: rest =>
      match rememberedSessionForClient options client category with
      | none => .ok (switchClientForClient client first.sessionName)
      | some remembered =>
        match (first :: rest).find? fun session => session.sessionName = remembered with
        | some session => .ok (switchClientForClient client session.sessionName)
        | none => .ok (switchClientForClient client first.sessionName)

def Direction.nextIndex (direction : Direction) (index length : ℕ) : ℕ :=
  match direction with
  | .next => (index + 1) % length
  | .previous => (index + length - 1) % length

def cycleSessionResolved (categories : ResolvedSessionCategories) (sessions : List SessionInfo)
    (current client : String) (direction : Direction) : Except String (List String × Remember) :=
  match findSession sessions current with
  | none => .error s!"current session not found: {current}"
  | some session =>
    match categories.categoryFor session with
    | .error error => .error error
    | .ok category =>
      let categorySessions := categories.sessionsInCategory sessions category
      if categorySessions = [] then .error s!"no session in current category: {category}"
      else
        let index := (categorySessions.findIdx? fun session => session.name = current).getD 0
        let next := direction.nextIndex index categorySessions.length
        let nextName := (categorySessions.map SessionInfo.name).getD next ""
        .ok (switchClientForClient client nextName, ⟨client, category, nextName⟩)

end VdeTmux.Session
