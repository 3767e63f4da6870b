import NocRouting.Proofs.Command.Models

/-!
# The options of a command line

A command line is read argument by argument, and what holds of its options from the beginning and is
kept by every option holds at the end.  So the resolution that a command line chooses is a whole
number, unless the choice was given up.

* `CommandLine.read_induction` is this rule.
* `CommandLine.isChosen_of_parse` applies it to the resolution.
-/

namespace NocRouting

namespace CommandLine

variable {line line' : CommandLine} {p p' : Parsing} {arguments : List Argument}

/-- What naming the problem keeps and every option keeps, reading a command line keeps. -/
lemma read_induction {Q : CommandLine → Prop}
    (hname : ∀ line problem, Q line → Q { line with problem := problem })
    (hfollow : ∀ line f line', Q line → follow line f = .ok line' → Q line')
    (hchoose : ∀ line f value line', Q line → choose line f value = .ok line' → Q line')
    (h : read arguments p = .ok p') (hp : Q p.line) : Q p'.line := by
  have hgroup : ∀ (before : List Flag) line line', Q line → before.foldlM follow line = .ok line' →
      Q line' := by
    intro before line line' hline hfold
    exact Except.foldlM_induction (P := fun _ line => Q line) hfold hline
      fun _ f s s' hs hs' => hfollow s f s' hs hs'
  fun_induction read arguments p with
  | case1 p =>
    obtain rfl := Except.pure_eq_ok.1 h
    exact hp
  | case2 text rest p hnamed ih => exact ih h hp
  | case3 text p hnamed rest ih => exact ih h (hname p.line text hp)
  | case4 text p hnamed rest hother ih => exact ih h (hname p.line text hp)
  | case5 rest p hnamed ih => exact ih h hp
  | case6 p hnamed text rest ih => exact ih h (hname p.line text hp)
  | case7 p hnamed rest hother ih => exact ih h hp
  | case8 text rest p ih => exact ih h hp
  | case9 f isShort attached rest p m hexpand => cases h
  | case10 f isShort attached rest p before g value hexpand ih =>
    obtain ⟨line, hline, h⟩ := Except.bind_eq_ok.1 h
    obtain ⟨line', hline', h⟩ := Except.bind_eq_ok.1 h
    exact ih line' h (hchoose line g value line' (hgroup before p.line line hp hline) hline')
  | case11 f isShort attached p before g hexpand hvalue value rest ih =>
    obtain ⟨line, hline, h⟩ := Except.bind_eq_ok.1 h
    obtain ⟨line', hline', h⟩ := Except.bind_eq_ok.1 h
    exact ih line' h (hchoose line g value line' (hgroup before p.line line hp hline) hline')
  | case12 f isShort attached p before g hexpand hvalue rest hother => cases h
  | case13 f isShort attached rest p before g hexpand hvalue ih =>
    obtain ⟨line, hline, h⟩ := Except.bind_eq_ok.1 h
    obtain ⟨line', hline', h⟩ := Except.bind_eq_ok.1 h
    exact ih line' h (hfollow line g line' (hgroup before p.line line hp hline) hline')

/-! ### Why reading ends early -/

/-- Reading ends early for information or for want of a meaning, but not to run. -/
def Ending.IsNoRun (e : Ending) : Prop :=
  ∀ c, e ≠ .request (.run c)

lemma isNoRun_misuse {m : Misuse} : Ending.IsNoRun (.misuse m) := by
  rintro c ⟨⟩

lemma failsOnly_whole {f : Flag} {value : Text} : FailsOnly Ending.IsNoRun (whole f value) := by
  unfold whole
  split
  · exact .ok _
  · exact .error isNoRun_misuse

lemma failsOnly_double {f : Flag} {value : Text} : FailsOnly Ending.IsNoRun (double f value) := by
  unfold double
  split
  · exact .ok _
  · exact .error isNoRun_misuse

lemma failsOnly_turnModelNamed {f : Flag} {value : Text} :
    FailsOnly Ending.IsNoRun (turnModelNamed f value) := by
  unfold turnModelNamed
  split
  · exact .ok _
  · exact .error isNoRun_misuse

lemma failsOnly_choose {f : Flag} {value : Text} :
    FailsOnly Ending.IsNoRun (choose line f value) := by
  unfold choose
  dsimp only
  split
  · exact .bind (.ite (fun _ => .ok _) fun _ => failsOnly_whole) fun _ _ => .pure _
  · exact .bind (.ite (fun _ => .ok _) fun _ => failsOnly_whole) fun _ _ => .pure _
  · exact .bind (.ite (fun _ => .ok _) fun _ => failsOnly_whole) fun _ _ => .pure _
  · exact .bind (.ite (fun _ => .ok _) fun _ => failsOnly_double) fun _ _ => .pure _
  · exact .ite (fun _ => .pure _) fun _ => .bind failsOnly_turnModelNamed fun _ _ => .pure _
  · exact .pure _

lemma failsOnly_follow {f : Flag} : FailsOnly Ending.IsNoRun (follow line f) := by
  unfold follow
  split
  · exact .throw (by rintro c ⟨⟩)
  · exact .throw (by rintro c ⟨⟩)
  · exact .pure _
  · exact .pure _
  · exact .pure _

lemma failsOnly_read : FailsOnly Ending.IsNoRun (read arguments p) := by
  have hgroup : ∀ (before : List Flag) line,
      FailsOnly Ending.IsNoRun (before.foldlM follow line) := by
    intro before line
    exact .foldlM (I := fun _ => True) trivial
      fun _ _ _ _ => ⟨failsOnly_follow, fun _ _ => trivial⟩
  fun_induction read arguments p with
  | case1 p => exact .pure p
  | case2 text rest p hnamed ih => exact ih
  | case3 text p hnamed rest ih => exact ih
  | case4 text p hnamed rest hother ih => exact ih
  | case5 rest p hnamed ih => exact ih
  | case6 p hnamed text rest ih => exact ih
  | case7 p hnamed rest hother ih => exact ih
  | case8 text rest p ih => exact ih
  | case9 f isShort attached rest p m hexpand => exact .throw isNoRun_misuse
  | case10 f isShort attached rest p before g value hexpand ih =>
    exact .bind (hgroup _ _) fun line _ => .bind failsOnly_choose fun line' _ => ih line'
  | case11 f isShort attached p before g hexpand hvalue value rest ih =>
    exact .bind (hgroup _ _) fun line _ => .bind failsOnly_choose fun line' _ => ih line'
  | case12 f isShort attached p before g hexpand hvalue rest hother => exact .throw isNoRun_misuse
  | case13 f isShort attached rest p before g hexpand hvalue ih =>
    exact .bind (hgroup _ _) fun line _ => .bind failsOnly_follow fun line' _ => ih line'

/-! ### The resolution -/

lemma resolution_of_follow {f : Flag} (h : follow line f = .ok line') :
    line'.resolution = line.resolution := by
  unfold follow at h
  split at h
  · cases h
  · cases h
  · obtain rfl := Except.pure_eq_ok.1 h
    rfl
  · obtain rfl := Except.pure_eq_ok.1 h
    rfl
  · obtain rfl := Except.pure_eq_ok.1 h
    rfl

lemma isChosen_of_whole {f : Flag} {value : Text} {v : Value} (h : whole f value = .ok v) :
    v.IsChosen := by
  unfold whole at h
  split at h
  · next n _ =>
    obtain rfl := Except.ok.inj h
    exact .inl ⟨n, rfl⟩
  · cases h

lemma isChosen_of_choose {f : Flag} {value : Text} (hline : line.resolution.IsChosen)
    (h : choose line f value = .ok line') : line'.resolution.IsChosen := by
  unfold choose at h
  dsimp only at h
  split at h
  · obtain ⟨v, hv, hpure⟩ := Except.bind_eq_ok.1 h
    obtain rfl := Except.pure_eq_ok.1 hpure
    split at hv
    · obtain rfl := Except.ok.inj hv
      exact .inr rfl
    · exact isChosen_of_whole hv
  · obtain ⟨v, -, hpure⟩ := Except.bind_eq_ok.1 h
    obtain rfl := Except.pure_eq_ok.1 hpure
    exact hline
  · obtain ⟨v, -, hpure⟩ := Except.bind_eq_ok.1 h
    obtain rfl := Except.pure_eq_ok.1 hpure
    exact hline
  · obtain ⟨v, -, hpure⟩ := Except.bind_eq_ok.1 h
    obtain rfl := Except.pure_eq_ok.1 hpure
    exact hline
  · split at h
    · obtain rfl := Except.pure_eq_ok.1 h
      exact hline
    · obtain ⟨v, -, hpure⟩ := Except.bind_eq_ok.1 h
      obtain rfl := Except.pure_eq_ok.1 hpure
      exact hline
  · obtain rfl := Except.pure_eq_ok.1 h
    exact hline

/-- The resolution that a command line chooses is a whole number or nothing. -/
theorem isChosen_of_parse {arguments : List Text} (h : parse arguments = .ok (.run line)) :
    line.resolution.IsChosen := by
  obtain ⟨as, -, hread⟩ := Except.bind_eq_ok.1 h
  split at hread
  · next r hr =>
    obtain rfl := Except.pure_eq_ok.1 hread
    exact absurd rfl (failsOnly_read _ hr line)
  · exact absurd hread Except.throw_ne_ok
  · next p hp =>
    have hline : p.line = line := by
      dsimp only at hread
      split at hread
      · exact absurd hread Except.throw_bind_ne_ok
      · split at hread
        · exact absurd hread Except.throw_bind_ne_ok
        · exact Request.run.inj (Except.pure_eq_ok.1 hread)
    rw [← hline]
    exact read_induction (Q := fun line => line.resolution.IsChosen) (fun _ _ hline => hline)
      (fun _ _ _ hline hfollow => resolution_of_follow hfollow ▸ hline)
      (fun _ _ _ _ hline hchoose => isChosen_of_choose hline hchoose) hp
      (.inl ⟨defaultResolution, rfl⟩)

end CommandLine

end NocRouting
