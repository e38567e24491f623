import K4W.Library.Shell

/-!
# The root password

`promptRootPassword` escapes the password in place, so what it stores is the
escaped text, and `sudoExec` and `sudoStartDetached` escape it once more.
-/

namespace K4W.Gui

open K4W.Library

/-- The command line of the check. -/
def checkLine (pass : List Char) : List Char :=
  "echo '".toList ++ pass ++ "' | sudo -S -v 2>&1".toList

/-- The command line of `sudoExec` and `sudoStartDetached`. -/
def sudoLine (escaped : List Char) : List Char :=
  "echo '".toList ++ escaped ++ "' | sudo -S bash /tmp/.k4w_sudo.sh 2>/dev/null".toList

/-- The result of a call, `m_rootPassword` after it, and the command lines it runs. -/
structure Called where
  result : Bool
  rootPassword : List Char
  lines : List (List Char)

/-- `typed` is what the dialog returns, and `exitCode` how the check ends. -/
def promptRootPassword (rootPassword : List Char) (typed : Option (List Char))
    (exitCode : Int) : Called :=
  if rootPassword ≠ [] then
    { result := true, rootPassword := rootPassword, lines := [] }
  else
    match typed with
    | none => { result := false, rootPassword := rootPassword, lines := [] }
    | some pass =>
        if pass = [] then
          { result := false, rootPassword := rootPassword, lines := [] }
        else
          -- `pass.replace` changes `pass` itself
          let pass := Shell.escapeQuotes pass
          if exitCode ≠ 0 then
            { result := false, rootPassword := rootPassword, lines := [checkLine pass] }
          else
            { result := true, rootPassword := pass, lines := [checkLine pass] }

/-- The calls that use the password. -/
inductive PasswordCall where
  | prompt (typed : Option (List Char)) (exitCode : Int)
  | sudoExec
  | sudoStartDetached

def call (rootPassword : List Char) : PasswordCall → Called
  | .prompt typed exitCode => promptRootPassword rootPassword typed exitCode
  | .sudoExec | .sudoStartDetached =>
      let escaped := Shell.escapeQuotes rootPassword
      { result := true, rootPassword := rootPassword, lines := [sudoLine escaped] }

/-- The command lines of calls one after the other. -/
def linesOf (rootPassword : List Char) : List PasswordCall → List (List Char)
  | [] => []
  | first :: rest =>
      let called := call rootPassword first
      called.lines ++ linesOf called.rootPassword rest

/-- The argument of `echo` in a command line that begins with it. -/
def echoArgument (line : List Char) : Option (List Char) :=
  match Shell.firstCommand line with
  | some [command, argument] => if command = "echo".toList then some argument else none
  | _ => none

/-- The password comes through the check and through every later call. -/
def ComesThrough (typed : List Char) (called : Called) : Prop :=
  (∀ line ∈ called.lines, echoArgument line = some typed) ∧
    ∀ calls, ∀ line ∈ linesOf called.rootPassword calls, echoArgument line = some typed

/-! ## What `echo` gets -/

theorem plain_echo : Shell.Plain "echo".toList :=
  ⟨by decide, List.all_eq_true.mp rfl, by decide⟩

/-- A text in single quotes after `echo`, up to the pipe. -/
theorem echoArgument_quoted {text after : List Char} {back : List Shell.Token}
    (hnull : '\x00' ∉ text)
    (hafter : ∀ word : Shell.Word, Shell.lexFrom .unquoted (some word) after =
      some (.word word :: .operator '|' :: back)) :
    echoArgument ("echo".toList ++ ' ' :: '\'' :: (Shell.escapeQuotes text ++ '\'' :: after)) =
      some text := by
  obtain ⟨word, htext, hlex⟩ := Shell.lexFrom_quoted hnull after
  rw [echoArgument, Shell.firstCommand, Shell.lex, Shell.lexFrom_plain_blank plain_echo, hlex,
    hafter]
  simp [Shell.Token.word?, htext]

theorem echoArgument_checkLine {text : List Char} (hnull : '\x00' ∉ text) :
    echoArgument (checkLine (Shell.escapeQuotes text)) = some text := by
  have happend : checkLine (Shell.escapeQuotes text) = "echo".toList ++ ' ' :: '\'' ::
      (Shell.escapeQuotes text ++ '\'' :: " | sudo -S -v 2>&1".toList) :=
    List.append_assoc _ _ _
  rw [happend]
  exact echoArgument_quoted hnull fun _ => rfl

theorem echoArgument_sudoLine {text : List Char} (hnull : '\x00' ∉ text) :
    echoArgument (sudoLine (Shell.escapeQuotes text)) = some text := by
  have happend : sudoLine (Shell.escapeQuotes text) = "echo".toList ++ ' ' :: '\'' ::
      (Shell.escapeQuotes text ++
        '\'' :: " | sudo -S bash /tmp/.k4w_sudo.sh 2>/dev/null".toList) :=
    List.append_assoc _ _ _
  rw [happend]
  exact echoArgument_quoted hnull fun _ => rfl

/-! ## The password through all calls -/

/-- Once a password is stored, no call changes it, and every line carries it escaped. -/
theorem linesOf_stored {rootPassword : List Char} (hstored : rootPassword ≠ [])
    (calls : List PasswordCall) :
    ∀ line ∈ linesOf rootPassword calls, line = sudoLine (Shell.escapeQuotes rootPassword) := by
  induction calls with
  | nil => exact fun _ hmem => absurd hmem List.not_mem_nil
  | cons first rest ih =>
      intro line hmem
      cases first with
      | prompt typed exitCode =>
          have hcalled : call rootPassword (.prompt typed exitCode) =
              { result := true, rootPassword := rootPassword, lines := [] } := if_pos hstored
          rw [linesOf, hcalled] at hmem
          exact ih line hmem
      | sudoExec | sudoStartDetached =>
          rcases List.mem_append.mp hmem with hnow | hlater
          · exact List.mem_singleton.mp hnow
          · exact ih line hlater

theorem escapeQuotes_ne_nil {typed : List Char} (htyped : typed ≠ []) :
    Shell.escapeQuotes typed ≠ [] := by
  have hlength := Shell.length_escapeQuotes typed
  have hpos := List.length_pos_of_ne_nil htyped
  exact List.ne_nil_of_length_pos (by omega)

/-- A password that is accepted comes through exactly when it has no single quote. -/
theorem comesThrough_iff_noQuote {typed : List Char} (htyped : typed ≠ [])
    (hnull : '\x00' ∉ typed) :
    (promptRootPassword [] (some typed) 0).result = true ∧
      (ComesThrough typed (promptRootPassword [] (some typed) 0) ↔ '\'' ∉ typed) := by
  have hcalled : promptRootPassword [] (some typed) 0 =
      { result := true, rootPassword := Shell.escapeQuotes typed
        lines := [checkLine (Shell.escapeQuotes typed)] } := by
    simp [promptRootPassword, htyped]
  have hlater := echoArgument_sudoLine (Shell.null_notMem_escapeQuotes hnull)
  rw [hcalled, ← Shell.escapeQuotes_eq_iff]
  refine ⟨rfl, ?_, ?_⟩
  · rintro ⟨-, hall⟩
    have hline := hall [.sudoExec] (sudoLine (Shell.escapeQuotes (Shell.escapeQuotes typed)))
      (List.mem_singleton_self _)
    exact Option.some.inj (hlater.symm.trans hline)
  · intro hsame
    refine ⟨?_, ?_⟩
    · intro line hmem
      rw [List.mem_singleton.mp hmem]
      exact echoArgument_checkLine hnull
    · intro calls line hmem
      rw [linesOf_stored (escapeQuotes_ne_nil htyped) calls line hmem, hlater, hsame]

theorem comesThrough_blankAndDollar :
    (promptRootPassword [] (some "a $b".toList) 0).result = true ∧
      ComesThrough "a $b".toList (promptRootPassword [] (some "a $b".toList) 0) := by
  obtain ⟨haccepted, hiff⟩ :=
    @comesThrough_iff_noQuote "a $b".toList (by decide) (by decide)
  exact ⟨haccepted, hiff.mpr (by decide)⟩

/-- A password that is a single quote: the check gets it, the later calls do not. -/
theorem not_comesThrough_singleQuote :
    ¬ComesThrough ['\''] (promptRootPassword [] (some ['\'']) 0) := by
  rintro ⟨-, hall⟩
  have hline := hall [.sudoExec] _ (List.mem_singleton_self _)
  revert hline
  decide

end K4W.Gui
