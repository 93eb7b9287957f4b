import ConstructTui.App.Channels
import ConstructTui.Orchestrator.Statements

/-!
# The contacts table

Only the app writes contacts: it adds one, without an identity key, or deletes one. The orchestrator
tasks work on other tables of the same database. A database that no other program has written knows
the identity key of nobody.

## Main definitions

* `Storage.ContactsMove`: what a step can do to the table.
* `Sys.Programs`: the programs of all tasks keep a relation.
* `Sys.Written`: the databases that the client leaves behind.
* `Storage.Keyless`: no contact has an identity key.

## Main results

* `Sys.contactsMove_step`: every step makes one of these moves.
* `Sys.Written.keyless`: no database the client leaves behind holds an identity key.
-/

variable {ε : Type} {E : AppExternals ε} {ans : Answers ε}

/-- What a step does to the contacts: nothing, or one is added without a key, or one is deleted. -/
inductive Storage.ContactsMove (s s' : Storage) : Prop
  | same (h : s'.contacts = s.contacts)
  | added (userId displayName : String)
      (h : s'.contacts = s.contacts.insertOrReplace ⟨userId, displayName, ""⟩)
  | deleted (userId : String) (h : s'.contacts = s.contacts.deleteWhere fun c => c.userId = userId)

/-! ### Programs of the tasks -/

/-- Whatever the tasks have under way keeps the relation. -/
def Sys.Programs (G : TaskWorld ε → TaskWorld ε → Prop) (s : Sys ε) : Prop :=
  ∀ p ∈ s.pipelines, p.program.Keeps G

namespace Pipeline

/-- Only taking an input gives a task another program. -/
theorem Moves.program_of_not_take {p p' : Pipeline ε} {i : ℕ} {a : Label ε}
    {events : List InternalEvent} (h : p.Moves E i a p' events) (ha : ∀ b, a ≠ .take i b) :
    p'.program = p.program := by
  obtain haside | ⟨b, hb, -, -⟩ := h.aside_or_takes
  · exact haside.program
  · exact absurd hb (ha b)

/-- Taking an input begins to handle it. -/
theorem Moves.program {p p' : Pipeline ε} {i : ℕ} {a : Label ε} {events : List InternalEvent}
    (h : p.Moves E i a p' events) : p'.program = p.program ∨
      (∃ cmd, p'.program = OrchestratorTask.handleCommand E.core p.config cmd) ∨
      ∃ event, p'.program = OrchestratorTask.handleRx E.core p.config event := by
  obtain haside | ⟨b, -, htake, -⟩ := h.aside_or_takes
  · exact .inl haside.program
  · obtain ⟨-, ⟨-, cmd, commands, -, rfl⟩ | ⟨-, event, rest, -, rfl⟩⟩ := take_cases htake
    · exact .inr (.inl ⟨cmd, rfl⟩)
    · exact .inr (.inr ⟨event, rfl⟩)

end Pipeline

namespace Sys

/-- A relation that the handling of every input keeps is kept by all programs, whatever happens. -/
theorem Programs.next {G : TaskWorld ε → TaskWorld ε → Prop}
    (hcommand : ∀ C cmd, (OrchestratorTask.handleCommand E.core C cmd).Keeps G)
    (hrx : ∀ C event, (OrchestratorTask.handleRx E.core C event).Keeps G) {s s' : Sys ε}
    {a : Label ε} (hs : s.Programs G) (h : step E s a = some s') : s'.Programs G := by
  cases step_kind h with
  | input ans input queue ha hqueue h' =>
    subst h'
    exact (tended_handle E ans { s with queue := queue } input).forall_program (.pure ()) hs
  | startup ha hlabel h' =>
    rw [Programs, h'.pipelines]
    exact hs
  | behind ha hlabel h' =>
    rw [Programs, h'.pipelines]
    exact hs
  | pipeline ha i hp hmove h' =>
    subst h'
    intro q hq
    rcases List.mem_or_eq_of_mem_set hq with hq | rfl
    · exact hs q hq
    · rcases hmove.program with hsame | ⟨cmd, hcmd⟩ | ⟨event, hevent⟩
      · rw [hsame]
        exact hs _ (List.mem_of_getElem? hp)
      · rw [hcmd]
        exact hcommand _ cmd
      · rw [hevent]
        exact hrx _ event
  | orchestrator ha i hlabel hp h' =>
    obtain ⟨⟨program, world⟩, hstep, rfl⟩ := Option.map_eq_some_iff.mp h'
    intro q hq
    rcases List.mem_or_eq_of_mem_set hq with hq | rfl
    · exact hs q hq
    · exact ((hs _ (List.mem_of_getElem? hp)).step hstep).2

/-- Every task runs at most one statement a step. -/
theorem Programs.runs {s s' : Sys ε} {a : Label ε} (hs : s.Programs OrchestratorTask.Runs)
    (h : step E s a = some s') : s'.Programs OrchestratorTask.Runs :=
  hs.next (fun _ cmd => OrchestratorTask.handleCommand_runs cmd)
    (fun _ event => OrchestratorTask.handleRx_runs event) h

theorem programs_start (G : TaskWorld ε → TaskWorld ε → Prop) (cfg : AppConfig) (dir : ConfigDir)
    (db : Storage) : (start ε cfg dir db).Programs G := fun p hp => by cases hp

/-! ### Moves of the contacts -/

variable (ans) in
/-- A deletion takes the contact's row out at most. -/
theorem contactsMove_deleteContact (userId : String) (db : Storage) :
    db.ContactsMove (App.deleteContact ans userId db).2 := by
  obtain ⟨-, hdel⟩ | ⟨-, ⟨-, hdel⟩ | ⟨-, ⟨-, hdel⟩ | ⟨-, hdel⟩⟩⟩ :=
    App.deleteContact_cases ans userId db <;> rw [hdel]
  · exact .same rfl
  · exact .deleted userId rfl
  · exact .deleted userId rfl
  · exact .deleted userId rfl

variable (ans) in
theorem contactsMove_deleteRows (userId : String) (s : Sys ε) :
    s.db.ContactsMove (App.deleteRows ans userId s).2.db := by
  obtain h | ⟨-, -, h⟩ := App.deleteRows_cases ans userId s
  · rw [h]
    exact .same rfl
  · rw [h]
    exact contactsMove_deleteContact ans userId s.db

theorem contactsMove_change {s s' : Sys ε} {input : Input} (h : Change ans s input s') :
    s.db.ContactsMove s'.db := by
  obtain ⟨base, hrest, rfl | ⟨contact, rfl⟩ | ⟨peerId, -, rfl⟩⟩ := h.rest
  · exact .same (congrArg Storage.contacts hrest.db)
  · exact .added contact.id contact.displayName (congrArg Storage.contacts hrest.db)
  · rw [hrest.db]
    exact contactsMove_deleteRows ans peerId s.answered

/-- Every step makes one of the moves. -/
theorem contactsMove_step {s s' : Sys ε} {a : Label ε} (hs : s.Programs OrchestratorTask.Runs)
    (h : step E s a = some s') : s.db.ContactsMove s'.db := by
  cases step_kind h with
  | input ans input queue ha hqueue h' =>
    subst h'
    cases App.handle_move E ans { s with queue := queue } input with
    | started _ hmove => exact .same (congrArg Storage.contacts hmove.db)
    | loggedOut _ hmove =>
      rcases hmove.db with hdb | hdb
      · exact .same (congrArg Storage.contacts hdb)
      · exact .same (by rw [hdb]; rfl)
    | changed _ _ hmove => exact (contactsMove_change hmove :)
  | startup ha hlabel h' => exact .same (congrArg Storage.contacts h'.db)
  | behind ha hlabel h' => exact .same (congrArg Storage.contacts h'.db)
  | pipeline ha i hp hmove h' => exact .same (by rw [h']; rfl)
  | orchestrator ha i hlabel hp h' =>
    obtain ⟨⟨program, world⟩, hstep, rfl⟩ := Option.map_eq_some_iff.mp h'
    have hruns := ((hs _ (List.mem_of_getElem? hp)).step hstep).1
    exact .same hruns.contacts

end Sys

/-! ### Contacts without keys -/

/-- No contact has an identity key. -/
def Storage.Keyless (db : Storage) : Prop := ∀ c ∈ db.contacts.rows, c.identityKeyB64 = ""

theorem Storage.ContactsMove.keyless {s s' : Storage} (h : s.ContactsMove s') (hs : s.Keyless) :
    s'.Keyless := by
  intro c hc
  cases h with
  | same h => exact hs c (h ▸ hc)
  | added userId displayName h =>
    rw [h] at hc
    rcases Table.mem_insertOrReplace.mp hc with ⟨hc, -⟩ | rfl
    · exact hs c hc
    · rfl
  | deleted userId h =>
    rw [h] at hc
    exact hs c (Table.mem_deleteWhere.mp hc).1

namespace Sys

/-- The databases that runs of the client leave behind, the first of which began on an empty one. -/
inductive Written (E : AppExternals ε) : Storage → Prop
  | init : Written E .init
  | run {cfg : AppConfig} {dir : ConfigDir} {db : Storage} {as : List (Label ε)} {s : Sys ε}
      (hdb : Written E db) (hs : Run.after (step E) (start ε cfg dir db) as = some s) :
      Written E s.db

/-- A run keeps the database without keys. -/
theorem keyless_after {s s' : Sys ε} {as : List (Label ε)}
    (hs : s.Programs OrchestratorTask.Runs ∧ s.db.Keyless)
    (h : Run.after (step E) s as = some s') :
    s'.Programs OrchestratorTask.Runs ∧ s'.db.Keyless :=
  Run.invariant (I := fun s => s.Programs OrchestratorTask.Runs ∧ s.db.Keyless)
    (fun _ _ _ hI hstep => ⟨hI.1.runs hstep, (contactsMove_step hI.1 hstep).keyless hI.2⟩) hs h

/-- **The client stores no identity key** of a contact: no database it leaves behind has one. -/
theorem Written.keyless {db : Storage} (h : Written E db) : db.Keyless := by
  induction h with
  | init => exact fun c hc => by cases hc
  | run _ hs ih => exact (keyless_after ⟨programs_start _ _ _ _, ih⟩ hs).2

end Sys
