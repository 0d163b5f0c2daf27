import DetectionRule.Condition.Argument
import DetectionRule.Rule.Draft

/-!
# Editing sessions

A session is a draft under a sequence of steps, each of which is answered. Conditions get handles in
the order in which they are added, and a handle is never given twice. A step that is refused changes
nothing and gives no handle; an edit that names no condition of the draft changes nothing either.
-/

namespace DetectionRule

structure PatchText where
  tag : Option String := none
  value : Option String := none
  attributes : Option (List (String × String)) := none
deriving DecidableEq

def PatchText.read (text : PatchText) : Except NameError Patch := do
  let tag ← text.tag.mapM Tag.read
  let attributes ← text.attributes.mapM Attributes.read
  return { tag, value := text.value, attributes }

/-- A step of a session. A missing handle names no condition. -/
inductive Step
  | add
  | apply (argument : String)
  | update (id : Option Handle) (patch : PatchText)
  | setAttribute (id : Option Handle) (name : String) (value : Option String)
  | remove (id : Option Handle)
  | header (change : Header.Change)
  | get (id : Option Handle)
  | position (id : Option Handle)
  | size
  | misplaced (id : Option Handle)
  | render (mode : TextMode)
  | findings (mode : TextMode)
  | validate
  | pretty
  | save
  | isSaved
deriving DecidableEq

inductive Refusal
  | name (e : NameError)
  | argument (e : ArgumentError)
  | invalid (rejection : Rejection)
deriving DecidableEq

inductive Answer
  | conditions (conditions : List Condition)
  | updated (conditions : List Condition) (emptyPatch : Bool)
  | header (header : Header)
  | condition (condition : Option Condition)
  | position (index : Option Nat)
  | size (n : Nat)
  | attributes (attributes : Option (List Attribute))
  | text (s : String)
  | findings (findings : List Finding)
  | valid
  | saved
  | isSaved (b : Bool)
  | refused (refusal : Refusal)
deriving DecidableEq

/-! ### Sessions -/

/-- A draft, the draft saved last, and how many handles have been given. -/
structure Session where
  draft : Draft
  saved : Draft
  given : Nat := 0
deriving DecidableEq

namespace Session

def start (header : Header) : Session where
  draft := { header }
  saved := { header }

def next (session : Session) : Handle := ⟨session.given⟩

def store (session : Session) : Store := session.draft.store

def withStore (session : Session) (store : Store) : Session :=
  { session with draft := { session.draft with store } }

def give (session : Session) : Session := { session with given := session.given + 1 }

def edit (session : Session) (id : Option Handle) (change : Store → Handle → Store) : Session :=
  match id with
  | some id => session.withStore (change session.store id)
  | none => session

def get? (session : Session) (id : Option Handle) : Option Condition :=
  id.bind session.store.get?

def shown (session : Session) : Session × Answer :=
  (session, .conditions session.draft.conditions)

def step (session : Session) : Step → Session × Answer
  | .add => (session.withStore (session.store.add session.next)).give.shown
  | .apply text =>
    match Argument.parse text with
    | .error e => (session, .refused (.argument e))
    | .ok argument =>
      (session.withStore (session.store.addArgument session.next argument)).give.shown
  | .update id text =>
    match text.read with
    | .error e => (session, .refused (.name e))
    | .ok patch =>
      let after := session.edit id fun store id => store.update id patch
      (after, .updated after.draft.conditions patch.isEmpty)
  | .setAttribute id name value =>
    match Attribute.read name with
    | .error e => (session, .refused (.name e))
    | .ok attr =>
      (session.edit id fun store id => store.setAttribute id attr value).shown
  | .remove id => (session.edit id Store.remove).shown
  | .header change =>
    let header := session.draft.header.apply change
    ({ session with draft := { session.draft with header } }, .header header)
  | .get id => (session, .condition (session.get? id))
  | .position id => (session, .position (id.bind session.store.position?))
  | .size => (session, .size session.store.size)
  | .misplaced id => (session, .attributes ((session.get? id).map Condition.misplaced))
  | .render mode => (session, .text (session.draft.render mode))
  | .findings mode => (session, .findings (session.draft.findings mode))
  | .validate =>
    match session.draft.validate with
    | .ok () => (session, .valid)
    | .error rejection => (session, .refused (.invalid rejection))
  | .pretty => (session, .text session.draft.toJson.pretty)
  | .save => ({ session with saved := session.draft }, .saved)
  | .isSaved => (session, .isSaved (session.draft = session.saved))

def run (session : Session) : List Step → Session × List Answer
  | [] => (session, [])
  | step :: steps =>
    let (session, answer) := session.step step
    let (session, answers) := session.run steps
    (session, answer :: answers)

end Session

end DetectionRule
