import ConstructTui.Config.Damage

/-!
# Clearing the session

The session file is overwritten and removed. Whatever looks for a session goes through the same path
as the clearing does: when there is no session file, the file under the old name is renamed to it. A
file that is under the old name while the session file is there survives the clearing, and is the
session file from the next look on.

## Main definitions

* `Sealing.EraseOutcome`, `Sealing.clearSession`.
* `Sealing.Visit`, `Sealing.DirBytes.visited`: what is done with the files before the next save.
* `Sealing.NoSession`: no later look finds a session.

## Main results

* `Sealing.Models.clear`: a `ConfigDir` is cleared as its files are.
* `Sealing.noSession_clearSession_iff`: a clearing that succeeds leaves no session exactly when one
  of the two files was missing.
-/

namespace Sealing

/-- How the session file is overwritten and removed; when that fails, other bytes can be left. -/
inductive EraseOutcome
  | erased
  | failed (error : String) (left : Option Bytes)

/-- `clear_session` on the bytes. -/
def clearSession (faults : Faults) (outcome : EraseOutcome) (d : DirBytes) :
    Except String Unit × DirBytes :=
  match faults.path with
  | some e => (.error e, d)
  | none =>
    let d := d.sessionPath
    if d.enc.isNone then (.ok (), d)
    else match outcome with
      | .erased => (.ok (), { d with enc := none })
      | .failed e none => (.error e, d)
      | .failed e (some garbage) => (.error e, { d with enc := some garbage })

/-- What is done with the files before the next save. To detect a session, to read its salt and to
load it leave nothing but the renaming. -/
inductive Visit
  | look (faults : Faults)
  | clear (faults : Faults) (outcome : EraseOutcome)

/-- What a visit leaves. -/
def Visit.leaves (d : DirBytes) : Visit → DirBytes
  | .look faults => if faults.path.isSome then d else d.sessionPath
  | .clear faults outcome => (clearSession faults outcome d).2

def DirBytes.visited (visits : List Visit) (d : DirBytes) : DirBytes := visits.foldl Visit.leaves d

variable (D : DiskLibs)

/-- No session is detected or loaded, and none can be read with any key, after any visits. -/
structure NoSession (d : DirBytes) : Prop where
  undetected : ∀ visits faults, detectSession D.toSealLibs ((d.visited visits).faults faults)
    (d.visited visits).texts = .none
  unloaded : ∀ visits faults, faults.path = none →
    loadSession D ((d.visited visits).faults faults) (d.visited visits).texts = .ok none
  unread : ∀ visits sk session, ¬Reads D sk (d.visited visits) session

variable {D} {faults : Faults} {outcome : EraseOutcome} {d : DirBytes}

/-- A clearing that succeeds leaves the old file where it was, if there was a session file. -/
theorem clearSession_of_ok (h : (clearSession faults outcome d).1 = .ok ()) :
    (clearSession faults outcome d).2 = ⟨none, if d.enc.isNone then none else d.legacy⟩ := by
  obtain ⟨enc, legacy⟩ := d
  unfold clearSession at h ⊢
  cases hpath : faults.path with
  | some e =>
    rw [hpath] at h
    cases h
  | none =>
    rw [hpath] at h
    cases outcome with
    | erased => cases enc <;> cases legacy <;> rfl
    | failed e left => cases enc <;> cases legacy <;> cases left <;> first | rfl | cases h

/-- A directory is cleared as its files are. -/
theorem Models.clear {L : SealLibs} {c : ConfigDir} (h : Models L d.texts c) :
    (clearSession .none .erased d).1 = (c.clearSession .cleared).1 ∧
      Models L (clearSession .none .erased d).2.texts (c.clearSession .cleared).2 := by
  obtain ⟨enc, legacy⟩ := d
  have hpath := h.sessionPath
  unfold ConfigDir.clearSession
  cases enc with
  | some content =>
    obtain ⟨hd, -⟩ | ⟨_, file, -, hc, -⟩ := rel_cases hpath.enc
    · cases hd
    · dsimp only
      rw [hc]
      exact ⟨rfl, .none, hpath.legacy⟩
  | none =>
    cases legacy with
    | some content =>
      obtain ⟨hd, -⟩ | ⟨_, file, -, hc, -⟩ := rel_cases hpath.enc
      · cases hd
      · dsimp only
        rw [hc]
        exact ⟨rfl, .none, hpath.legacy⟩
    | none =>
      obtain ⟨-, hc⟩ | ⟨_, file, hd, -⟩ := rel_cases hpath.enc
      · dsimp only
        rw [hc]
        exact ⟨rfl, hpath⟩
      · cases hd

/-! ### Without files -/

/-- Where there are no files, no visit makes one. -/
theorem Visit.leaves_empty (visit : Visit) : visit.leaves ⟨none, none⟩ = ⟨none, none⟩ := by
  cases visit with
  | look faults => exact ite_self _
  | clear faults outcome =>
    show (clearSession faults outcome ⟨none, none⟩).2 = _
    unfold clearSession
    cases faults.path <;> rfl

theorem DirBytes.visited_empty (visits : List Visit) :
    DirBytes.visited visits ⟨none, none⟩ = ⟨none, none⟩ := by
  induction visits with
  | nil => rfl
  | cons visit visits ih => rwa [DirBytes.visited, List.foldl_cons, visit.leaves_empty]

theorem noSession_empty : NoSession D ⟨none, none⟩ where
  undetected visits faults := by
    rw [DirBytes.visited_empty]
    unfold detectSession readFile DirBytes.faults
    cases faults.path <;> rfl
  unloaded visits faults hpath := by
    rw [DirBytes.visited_empty]
    unfold loadSession readFile DirBytes.faults
    rw [hpath]
    rfl
  unread visits sk session hreads := by
    rw [DirBytes.visited_empty] at hreads
    obtain hopened | hloaded := hreads
    · cases hopened
    · cases hloaded

/-! ### With the old file -/

/-- Without a session file, the old file is read. -/
theorem readFile_legacy (content : Bytes) (faults : Faults) :
    readFile (DirBytes.faults faults ⟨none, some content⟩) (DirBytes.texts ⟨none, some content⟩) =
      readFile (DirBytes.faults faults ⟨some content, none⟩)
        (DirBytes.texts ⟨some content, none⟩) := rfl

/-- The old file is the session file at the next look, and loading it does not say that there is
none. -/
theorem not_noSession_legacy (content : Bytes) : ¬NoSession D ⟨none, some content⟩ := by
  intro h
  have hload := h.unloaded [] .none rfl
  change loadSession D (DirBytes.faults .none ⟨none, some content⟩)
    (DirBytes.texts ⟨none, some content⟩) = _ at hload
  unfold loadSession at hload
  rw [readFile_legacy] at hload
  obtain ⟨⟨e, hread⟩, -⟩ | ⟨text, -, -, hread⟩ := readFile_bytes .none content none
  · rw [hread] at hload
    cases hload
  · rw [hread] at hload
    change (do return some (← D.sessionFromJson (Utf8.encode text))) = _ at hload
    rw [Models.map_some_eq] at hload
    cases hjson : D.sessionFromJson (Utf8.encode text) with
    | error e =>
      rw [hjson] at hload
      cases hload
    | ok session =>
      rw [hjson] at hload
      cases hload

/-- **A clearing that succeeds leaves no session exactly when the session file or the file under the
old name was missing.** -/
theorem noSession_clearSession_iff (h : (clearSession faults outcome d).1 = .ok ()) :
    NoSession D (clearSession faults outcome d).2 ↔ d.enc = none ∨ d.legacy = none := by
  rw [clearSession_of_ok h]
  obtain ⟨_ | enc, legacy⟩ := d
  · exact iff_of_true noSession_empty (.inl rfl)
  · cases legacy with
    | none => exact iff_of_true noSession_empty (.inr rfl)
    | some content =>
      refine iff_of_false (not_noSession_legacy content) ?_
      rintro (henc | hlegacy)
      · cases henc
      · cases hlegacy

/-! ### The device of the passphrase `correct horse` -/

/-- The only session file is cleared. -/
theorem noSession_clearSession_horse : NoSession horseDisk
    (clearSession .none .erased ⟨some (Utf8.encode blankSealedText), none⟩).2 :=
  (noSession_clearSession_iff rfl).mpr (.inr rfl)

/-- The sealed session and an old one in clear. -/
def horseFiles : DirBytes := ⟨some (Utf8.encode blankSealedText), some blankText⟩

/-- The old session is loaded after the sealed one is cleared. -/
theorem loadSession_clearSession_horse :
    (clearSession .none .erased horseFiles).1 = .ok () ∧
      loadSession horseDisk ((clearSession .none .erased horseFiles).2.faults .none)
        (clearSession .none .erased horseFiles).2.texts = .ok (some blankSession) ∧
      ¬NoSession horseDisk (clearSession .none .erased horseFiles).2 := by
  refine ⟨rfl, ?_, not_noSession_legacy blankText⟩
  obtain ⟨text, htext⟩ : ∃ text, blankText = Utf8.encode text := by
    unfold blankText
    exact ⟨_, rfl⟩
  have hdecode : Utf8.decode? blankText = some text := by rw [htext, Utf8.decode?_encode]
  have hread := (readFile_legacy blankText .none).trans (readFile_of_decode hdecode none)
  show loadSession horseDisk (DirBytes.faults .none ⟨none, some blankText⟩)
    (DirBytes.texts ⟨none, some blankText⟩) = _
  unfold loadSession
  rw [hread]
  show (do return some (← horseDisk.sessionFromJson (Utf8.encode text))) = _
  rw [Models.map_some_eq, ← htext]
  show (if blankText = blankText then _ else _ : Except String Session).map some = _
  rw [if_pos rfl]
  rfl

end Sealing
