import DocTag.Storage
/-!
What a write does to the other places, and to its own.

A path is looked up in directories only, and a write never replaces a
directory.  So the path that was written leads to the same place as before, and
what is read there is what was written.
-/

namespace DocTag
namespace FileSystem

theorem access_eq_ok_iff {result : Type} {path : Path}
    {outcome : Except AccessReason result} {value : result} :
    access path outcome = .ok value ↔
      path.hasNul = false ∧ outcome = .ok value := by
  unfold access
  cases path.hasNul with
  | true => simp
  | false =>
      cases outcome with
      | error reason =>
          change Except.error (AccessFault.refused reason path) = .ok value ↔ _
          simp
      | ok found =>
          change Except.ok found = .ok value ↔ _
          simp

theorem access_eq_error_iff {result : Type} {path : Path}
    {outcome : Except AccessReason result} {fault : AccessFault} :
    access path outcome = .error fault ↔
      (path.hasNul = true ∧ fault = .embeddedNul) ∨
        (path.hasNul = false ∧ ∃ reason : AccessReason,
          outcome = .error reason ∧ fault = .refused reason path) := by
  unfold access
  cases path.hasNul with
  | true => simp [eq_comm]
  | false =>
      cases outcome with
      | error reason =>
          change Except.error (AccessFault.refused reason path) =
            .error fault ↔ _
          simp [eq_comm]
      | ok value =>
          change Except.ok value = .error fault ↔ _
          simp

theorem access_eq_error {result : Type} {path : Path}
    {outcome : Except AccessReason result} {fault : AccessFault}
    (failed : access path outcome = .error fault) :
    path.hasNul = true ∧ fault = .embeddedNul ∨
      ∃ reason : AccessReason, outcome = .error reason ∧
        fault = .refused reason path :=
  (access_eq_error_iff.mp failed).imp_right And.right

theorem read_eq_ok_iff {system : FileSystem} {path : Path} {content : Bytes} :
    system.read path = .ok content ↔
      path.hasNul = false ∧ ∃ place : Place,
        system.resolve path = .ok place ∧
          system.node? place = some (.file content) := by
  unfold read
  rw [access_eq_ok_iff]
  cases system.resolve path with
  | error reason => simp [bind, Except.bind]
  | ok place =>
      simp only [bind, Except.bind, contentAt, Except.ok.injEq,
        exists_eq_left']
      cases system.node? place with
      | none => simp
      | some node => cases node <;> simp

theorem write_eq_ok_iff {system after : FileSystem} {path : Path}
    {content : Bytes} :
    system.write path content = .ok after ↔
      path.hasNul = false ∧ ∃ place : Place,
        system.resolve path = .ok place ∧
          system.node? place ≠ some .directory ∧
            system.put place (.file content) = after := by
  unfold write
  rw [access_eq_ok_iff]
  cases system.resolve path with
  | error reason => simp [bind, Except.bind]
  | ok place =>
      simp only [bind, Except.bind, pure, Except.pure, Except.ok.injEq,
        exists_eq_left']
      cases system.node? place with
      | none => simp
      | some node => cases node <;> simp

theorem write_eq_error_iff {system : FileSystem} {path : Path}
    {content : Bytes} {fault : AccessFault} :
    system.write path content = .error fault ↔
      (path.hasNul = true ∧ fault = .embeddedNul) ∨
        (path.hasNul = false ∧ ∃ reason : AccessReason,
          (system.resolve path = .error reason ∨
            ∃ place : Place, system.resolve path = .ok place ∧
              system.node? place = some .directory ∧
                reason = .isDirectory) ∧
          fault = .refused reason path) := by
  unfold write
  rw [access_eq_error_iff]
  cases system.resolve path with
  | error reason => simp [bind, Except.bind]
  | ok place =>
      simp only [bind, Except.bind, pure, Except.pure, Except.ok.injEq,
        reduceCtorEq, exists_eq_left', false_or]
      cases system.node? place with
      | none => simp
      | some node => cases node <;> simp

theorem read_of_write_eq_error {system : FileSystem} {path : Path}
    {content : Bytes} {fault : AccessFault}
    (refused : system.write path content = .error fault) :
    system.read path = .error fault := by
  unfold read
  rw [access_eq_error_iff]
  refine (write_eq_error_iff.mp refused).imp_right (And.imp_right ?_)
  rintro ⟨reason, unresolved | ⟨place, resolved, held, rfl⟩, same⟩
  · exact ⟨reason, by rw [unresolved]; rfl, same⟩
  · refine ⟨.isDirectory, ?_, same⟩
    rw [resolved]
    simp only [bind, Except.bind, contentAt, held]

/-- Whether a write is accepted never hangs on what is written. -/
theorem exists_write_of_write {system after : FileSystem} {path : Path}
    {content : Bytes} (written : system.write path content = .ok after)
    (other : Bytes) :
    ∃ system' : FileSystem, system.write path other = .ok system' := by
  obtain ⟨named, place, resolved, free, -⟩ := write_eq_ok_iff.mp written
  exact ⟨system.put place (.file other),
    write_eq_ok_iff.mpr ⟨named, place, resolved, free, rfl⟩⟩

theorem ne_root_of_node? {system : FileSystem} {place : Place}
    (free : system.node? place ≠ some .directory) : place ≠ [] := by
  intro root
  subst root
  exact free rfl

/-- A walk meets directories only, so it does not meet what was put where
there was none. -/
private theorem walk_put {system : FileSystem} {taken : Place} (content : Bytes)
    (free : system.node? taken ≠ some .directory) {start place : Place}
    {components : List Text}
    (walked : system.walk start components = .ok place) :
    (system.put taken (.file content)).walk start components = .ok place := by
  induction components generalizing start with
  | nil => exact walked
  | cons component rest ih =>
      rw [walk] at walked ⊢
      cases held : system.node? start with
      | none =>
          rw [held] at walked
          cases walked
      | some node =>
          cases node with
          | file content =>
              rw [held] at walked
              cases walked
          | directory =>
              have apart : start ≠ taken := by
                intro same
                subst same
                exact free held
              rw [held] at walked
              rw [node?_put_of_ne system (.file content) apart, held]
              by_cases long : nameLimit < byteLength component
              · simp only [if_pos long] at walked
                cases walked
              · simp only [if_neg long] at walked ⊢
                exact ih walked

private theorem resolve_put {system : FileSystem} {taken : Place}
    (content : Bytes) (free : system.node? taken ≠ some .directory)
    {path : Path} {place : Place} (resolved : system.resolve path = .ok place) :
    (system.put taken (.file content)).resolve path = .ok place := by
  unfold resolve at resolved ⊢
  by_cases long : pathLimit < byteLength path.toText
  · rw [if_pos long] at resolved
    cases resolved
  · rw [if_neg long] at resolved ⊢
    exact walk_put content free resolved

theorem read_of_write {system after : FileSystem} {path : Path}
    {content : Bytes} (written : system.write path content = .ok after) :
    after.read path = .ok content := by
  obtain ⟨named, place, resolved, free, rfl⟩ := write_eq_ok_iff.mp written
  rw [read_eq_ok_iff]
  refine ⟨named, place, resolve_put content free resolved, ?_⟩
  exact node?_put_self system (.file content) (ne_root_of_node? free)

end FileSystem
end DocTag
