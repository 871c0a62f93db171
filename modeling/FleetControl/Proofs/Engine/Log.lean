import FleetControl.Proofs.Engine.Stock

/-!
# What an engine writes down

Every call is written down once, whatever comes of it (`calls_answer`), on a line that begins with the word
of its kind (`answer_log`). So the calls of a kind can be counted in what an engine has written (`times`).
-/

namespace FleetControl.Engine

variable {β : Type} {op : String}

/-- The word of a kind of calls. -/
def Call.word : Call β → String
  | .ping => "ping"
  | .createVolume _ => "create_volume"
  | .removeVolume _ => "remove_volume"
  | .createContainer _ _ => "create_container"
  | .start _ => "start"
  | .stop _ _ => "stop"
  | .restart _ _ => "restart"
  | .remove _ _ _ => "remove"
  | .inspect _ => "inspect"
  | .logs _ _ => "logs"
  | .stats _ _ _ => "stats"
  | .output _ _ => "exec_output"
  | .prepareShell _ _ => "exec_create"
  | .attach _ => "exec_attach"
  | .resize _ _ _ => "exec_resize"

/-- What a call is about, as it is written down. -/
def Call.detail : Call β → String
  | .ping => ""
  | .createVolume volume => volume.name
  | .removeVolume name => name
  | .createContainer name _ => name
  | .start id => id
  | .stop id grace => id ++ " " ++ toString grace.toNat
  | .restart id grace => id ++ " " ++ toString grace.toNat
  | .remove id force volumes => id ++ " force=" ++ flag force ++ " v=" ++ flag volumes
  | .inspect id => id
  | .logs id _ => id
  | .stats id _ _ => id
  | .output _ command => " ".intercalate command
  | .prepareShell _ command => command.headD ""
  | .attach shell => shell
  | .resize shell rows cols => shell ++ " " ++ toString rows.toNat ++ "x" ++ toString cols.toNat

/-- The line of a call. -/
def Call.line (c : Call β) : String := trimEnd (c.word ++ " " ++ c.detail)

/-- The first word of a line. -/
def firstWord (line : String) : String := String.ofList (line.toList.takeWhile (· != ' '))

/-- How often a kind of calls was written down. -/
def times (word : String) (lines : List String) : Nat := lines.countP (firstWord · == word)

/-- How often one call counts towards a kind. -/
def toll (word op : String) : Nat := if op = word then 1 else 0

/-- Counting goes line by line. -/
theorem times_append (word : String) (lines more : List String) :
    times word (lines ++ more) = times word lines + times word more := List.countP_append

/-- One line counts where it begins with the word. -/
theorem times_singleton (word line : String) : times word [line] = toll word (firstWord line) := by
  simp [times, toll, List.countP_singleton]

/-- **A line begins with its word**, as blanks are taken off its end only. -/
theorem firstWord_trimEnd (hop : ∀ c ∈ op.toList, Text.isBlank c = false) (detail : String) :
    firstWord (trimEnd (op ++ " " ++ detail)) = op := by
  have hspace : ∀ c ∈ op.toList, (c != ' ') = true := by
    intro c hc
    refine bne_iff_ne.mpr ?_
    rintro rfl
    exact absurd (hop ' ' hc) (by decide)
  have hop' : op.toList.reverse.dropWhile Text.isBlank = op.toList.reverse := by
    cases hrev : op.toList.reverse with
    | nil => rfl
    | cons c cs =>
      have hc : c ∈ op.toList := List.mem_reverse.mp (hrev ▸ List.mem_cons_self)
      rw [List.dropWhile_cons_of_neg (by simp [hop c hc])]
  -- what is left behind the word is nothing, or begins with the blank
  obtain ⟨rest, htrim, hrest⟩ : ∃ rest, Text.dropEndWhile Text.isBlank (op ++ " " ++ detail).toList =
      op.toList ++ rest ∧ rest.takeWhile (· != ' ') = [] := by
    have hline : (op ++ " " ++ detail).toList.reverse =
        detail.toList.reverse ++ ' ' :: op.toList.reverse := by
      simp [String.toList_append]
    rw [Text.dropEndWhile, hline, List.dropWhile_append]
    split
    · refine ⟨[], ?_, rfl⟩
      rw [List.dropWhile_cons_of_pos (by decide), hop', List.reverse_reverse, List.append_nil]
    · refine ⟨' ' :: (detail.toList.reverse.dropWhile Text.isBlank).reverse, ?_, rfl⟩
      simp
  rw [firstWord, trimEnd, String.toList_ofList, htrim, List.takeWhile_append_of_pos hspace, hrest,
    List.append_nil, String.ofList_toList]

/-- Looking for a failure that was set writes nothing down. -/
theorem calls_refusal? (key : String) (e : Engine) : (e.refusal? key).2.calls = e.calls := by
  unfold refusal?
  split <;> rfl

/-- A call is written down before anything else. -/
theorem calls_receive (op detail : String) (e : Engine) :
    (e.receive op detail).2.calls = e.calls ++ [trimEnd (op ++ " " ++ detail)] := by
  have hdetailed := calls_refusal? (op ++ ":" ++ detail) (e.noted op detail)
  unfold receive
  dsimp only
  split
  · rfl
  · split
    · rename_i r e₁ hfirst
      rw [noted, hfirst] at hdetailed
      exact hdetailed
    · rename_i e₁ hfirst
      rw [noted, hfirst] at hdetailed
      have hkind := (calls_refusal? op e₁).trans hdetailed
      split
      · rename_i r e₂ hsecond
        rw [hsecond] at hkind
        exact hkind
      · rename_i e₂ hsecond
        rw [hsecond] at hkind
        exact hkind

/-- A call that is received is one line, whatever it does then, as long as it writes none itself. -/
theorem calls_received {act : Engine → Except Failure β × Engine}
    (hact : ∀ e, (act e).2.calls = e.calls) (op detail : String) (e : Engine) :
    (e.received op detail act).2.calls = e.calls ++ [trimEnd (op ++ " " ++ detail)] := by
  have hreceive := calls_receive op detail e
  unfold received
  split
  · rename_i f e' h
    rw [h] at hreceive
    exact hreceive
  · rename_i e' h
    rw [h] at hreceive
    exact (hact e').trans hreceive

/-- What is done to a container writes nothing down. -/
theorem calls_withContainer {id : String} {act : Container → Engine → Except Failure β × Engine}
    (hact : ∀ c e, (act c e).2.calls = e.calls) (e : Engine) :
    (e.withContainer id act).2.calls = e.calls := by
  unfold withContainer
  split
  · rfl
  · exact hact _ e

/-- **Every call is written down once**: its word, and what it is about. -/
theorem calls_answer (c : Call β) (e : Engine) : (e.answer c).2.calls = e.calls ++ [c.line] := by
  cases c with
  | ping | attach shell | resize shell rows cols => exact calls_receive _ _ e
  | createVolume volume | stats id most window => exact calls_received (fun _ => rfl) _ _ e
  | removeVolume name | output id command =>
    refine calls_received (fun e => ?_) _ _ e
    split <;> rfl
  | createContainer name body =>
    refine calls_received (fun e => ?_) _ _ e
    unfold make
    split <;> rfl
  | start id | stop id grace | restart id grace | remove id force volumes | inspect id | logs id tail
  | prepareShell id command =>
    exact calls_received (fun _ => calls_withContainer (fun _ _ => rfl) _) _ _ e

/-- The words of calls hold no blanks, so a word ends where the first blank of its line stands. -/
theorem isBlank_of_mem_word (c : Call β) : ∀ x ∈ c.word.toList, Text.isBlank x = false := by
  have hall : (c.word.toList.all fun x => !Text.isBlank x) = true := by
    cases c <;> simp only [Call.word] <;> decide
  simpa using hall

/-- The line of a call is one of its kind. -/
theorem answer_log (c : Call β) (e : Engine) :
    ∃ line, (e.answer c).2.calls = e.calls ++ [line] ∧ firstWord line = c.word :=
  ⟨c.line, calls_answer c e, firstWord_trimEnd (isBlank_of_mem_word c) c.detail⟩

end FleetControl.Engine
