import Gatehouse.Launch
import Gatehouse.Proofs.Text.Cut

/-! # What the log says of the database

The address of a database names a user and a password between its scheme and an at sign.  The log
shows it with the password left out: what is shown is cut out of the address at the first `://`, at
the last at sign behind that, and at the first colon in between, and none of these lies in the
password (`redactDsn_address`); an at sign behind the password only makes less be shown.  So the
password has no part in what a launch logs first, nor, if the database opens with either password, in
anything else that it does (`launch_hides_password`). -/

namespace Gatehouse

namespace Launch

/-- The address of a database with a user and a password. -/
def address (scheme user password rest : String) : String :=
  scheme ++ ("://" ++ (user ++ (":" ++ (password ++ ("@" ++ rest)))))

/-- The mark behind a scheme begins with a colon, and no other colon is in it. -/
theorem toList_behindScheme : "://".toList = ':' :: ['/', '/'] := rfl

variable {scheme user : String}

/-- What the log shows of an address. -/
theorem redactDsn_address (hscheme : ¬ "://".toList <:+: scheme.toList)
    (huser : ':' ∉ user.toList) (password rest : String) :
    redactDsn (address scheme user password rest) =
      scheme ++ "://" ++ user ++ ":REDACTED@" ++ Text.behindLast '@' rest := by
  have hfirst := Text.cutFirst?_of_not_infix toList_behindScheme (by decide) hscheme
    (user ++ (":" ++ (password ++ ("@" ++ rest))))
  have hsplit : (user ++ (":" ++ (password ++ ("@" ++ rest)))).toList =
      (user ++ (":" ++ password)).toList ++ '@' :: rest.toList := by
    simp
  obtain ⟨more, hlast⟩ := Text.cutLast?_append hsplit
  rw [String.append_assoc, String.append_assoc] at hlast
  have huser := Text.cutFirst?_append ":" (c := ':') rfl huser (password ++ more)
  unfold redactDsn address
  rw [hfirst]
  dsimp only
  rw [hlast]
  dsimp only
  rw [huser]

/-- An address stands for memory only if its scheme does. -/
theorem behind?_memoryDsn (hscheme : ¬ "://".toList <:+: scheme.toList) (more : String) :
    (Text.behind? memoryDsn (scheme ++ ("://" ++ more))).isSome = true ↔ scheme = "memory" := by
  have hcut := Text.cutFirst?_of_not_infix toList_behindScheme (by decide) hscheme more
  have hmemory : ¬ "://".toList <:+: "memory".toList := by decide +kernel
  constructor
  · intro h
    obtain ⟨behind, hbehind⟩ := Option.isSome_iff_exists.mp h
    have hcut' := Text.cutFirst?_of_not_infix toList_behindScheme (by decide) hmemory
      behind
    have heq : scheme ++ ("://" ++ more) = "memory" ++ ("://" ++ behind) := by
      rw [Text.behind?_eq_some hbehind, ← String.append_assoc]
      rfl
    rw [heq, hcut'] at hcut
    exact (Prod.mk.inj (Option.some.inj hcut)).1.symm
  · rintro rfl
    have hbehind := Text.behind?_append memoryDsn more
    have heq : memoryDsn ++ more = "memory" ++ ("://" ++ more) := by
      rw [← String.append_assoc]
      rfl
    rw [← heq, hbehind]
    rfl

/-! ### The whole launch -/

variable {α β σ : Type} {h : Handler Host σ}

/-- The two launches end alike and leave the host alike, whatever state it is in. -/
def Alike (h : Handler Host σ) (p q : Launch α) : Prop := ∀ s, p.run.run h s = q.run.run h s

theorem Alike.refl (p : Launch α) : Alike h p p := fun _ => rfl

theorem Alike.bind {p q : Launch α} {f g : α → Launch β} (hpq : Alike h p q)
    (hfg : ∀ a, Alike h (f a) (g a)) : Alike h (p >>= f) (q >>= g) := by
  intro s
  change (Program.bind p.run _).run h s = (Program.bind q.run _).run h s
  rw [Program.run_bind, Program.run_bind, hpq s]
  cases (q.run.run h s).1 with
  | error trouble => rfl
  | ok a => exact hfg a _

/-- Storage that opens alike under two addresses is filled alike. -/
theorem alike_openStorage {dsn dsn' : String} (hasher : PasswordHasher) (occasion : Occasion)
    (hmemory : (Text.behind? memoryDsn dsn).isSome = (Text.behind? memoryDsn dsn').isSome)
    (hconnect : ∀ s, h (.connect dsn) s = h (.connect dsn') s) :
    Alike h (openStorage hasher occasion dsn) (openStorage hasher occasion dsn') := by
  unfold openStorage
  rw [hmemory]
  by_cases hisMemory : (Text.behind? memoryDsn dsn').isSome = true
  · rw [if_pos hisMemory, if_pos hisMemory]
    exact Alike.refl _
  · rw [if_neg hisMemory, if_neg hisMemory]
    have hask : Alike h (ask (.connect dsn)) (ask (.connect dsn')) := by
      intro s
      exact congrArg (fun answered : Bool × σ => (Except.ok answered.1, answered.2)) (hconnect s)
    exact hask.bind fun _ => Alike.refl _

/-- **The log of a launch does not depend on the password of the database**, whatever marks the
password and the rest of the address hold: the address is shown alike, so the same is logged first.
If the database opens alike under both passwords the launches are alike in all they do, and what they
log is part of it. -/
theorem launch_hides_password (release : Release) (hasher : PasswordHasher) (occasion : Occasion)
    (a : CommandLine.Arguments) (hscheme : ¬ "://".toList <:+: scheme.toList)
    (huser : ':' ∉ user.toList) (password password' rest : String) :
    let dsn := address scheme user password rest
    let dsn' := address scheme user password' rest
    redactDsn dsn = redactDsn dsn' ∧
      banner release { a with dsn := dsn } = banner release { a with dsn := dsn' } ∧
      ∀ (σ : Type) (h : Handler Host σ), (∀ s, h (.connect dsn) s = h (.connect dsn') s) →
        Alike h (execute release hasher occasion { a with dsn := dsn })
          (execute release hasher occasion { a with dsn := dsn' }) := by
  intro dsn dsn'
  have hshown : redactDsn dsn = redactDsn dsn' :=
    (redactDsn_address hscheme huser password rest).trans
      (redactDsn_address hscheme huser password' rest).symm
  have hbanner : banner release { a with dsn := dsn } = banner release { a with dsn := dsn' } := by
    unfold banner entries
    rw [hshown]
  refine ⟨hshown, hbanner, fun σ h hconnect => ?_⟩
  have hmemory : (Text.behind? memoryDsn dsn).isSome = (Text.behind? memoryDsn dsn').isSome := by
    rw [Bool.eq_iff_iff]
    exact (behind?_memoryDsn hscheme _).trans (behind?_memoryDsn hscheme _).symm
  have hstorage := alike_openStorage hasher occasion hmemory hconnect
  unfold execute
  rw [hbanner]
  exact (Alike.refl _).bind fun _ => hstorage.bind fun _ => Alike.refl _

end Launch

namespace Sample

/-- What a launch is started with, but for the address. -/
def arguments : CommandLine.Arguments :=
  ⟨8080, "", { key := "a key of no fewer than 32 bytes." }, .live, 5, 0, false⟩

/-- The answers of a database that is closed. -/
def closedDatabase : (op : Database.Op) → Database.Answer op
  | .execute _ => .error .closed
  | .begin => .error .closed
  | .commit => .error .closed
  | .rollback => .error .closed
  | .abandon => ()
  | .ping => false

/-- A host that keeps the log and connects to a database that is closed, under any address. -/
def journal : Handler Host (List Log.Entry)
  | .log e, entries => ((), entries ++ [e])
  | .connect _, entries => (true, entries)
  | .database op, entries => (closedDatabase op, entries)
  | .serve .., entries => ((), entries)

theorem journal_connect (dsn : String) (entries : List Log.Entry) :
    journal (.connect dsn) entries = (true, entries) := rfl

end Sample

namespace Launch

/-- A password that holds every mark is hidden as well as a plain one, and so is it where the rest of
the address holds them too. -/
theorem launch_hides_password_marks :
    let dsn := address "postgres" "umbral" "p@ss:w/rd://x" "db:5432/umbral?from=a@b://c"
    let dsn' := address "postgres" "umbral" "s3cret" "db:5432/umbral?from=a@b://c"
    let logged (dsn : String) :=
      ((execute {} ⟨fun _ _ => .ok "", fun _ _ => true⟩ ⟨⟨fun n => ⟨n⟩, []⟩, [], .ofSeconds 0⟩
        { Sample.arguments with dsn := dsn }).run.run Sample.journal []).2
    ¬ "://".toList <:+: "postgres".toList ∧ ':' ∉ "umbral".toList ∧
      redactDsn dsn = "postgres://umbral:REDACTED@b://c" ∧ redactDsn dsn = redactDsn dsn' ∧
      (logged dsn).length = 1 ∧ logged dsn = logged dsn' := by
  intro dsn dsn' logged
  have hscheme : ¬ "://".toList <:+: "postgres".toList := by decide +kernel
  have huser : ':' ∉ "umbral".toList := by decide
  obtain ⟨hshown, _, halike⟩ := launch_hides_password {} ⟨fun _ _ => .ok "", fun _ _ => true⟩
    ⟨⟨fun n => ⟨n⟩, []⟩, [], .ofSeconds 0⟩ Sample.arguments hscheme huser "p@ss:w/rd://x" "s3cret"
    "db:5432/umbral?from=a@b://c"
  have hconnect (entries : List Log.Entry) : Sample.journal (.connect dsn) entries =
      Sample.journal (.connect dsn') entries :=
    (Sample.journal_connect dsn entries).trans (Sample.journal_connect dsn' entries).symm
  have hrun := halike _ Sample.journal hconnect []
  have hlength : (logged dsn).length = 1 := by decide +kernel
  exact ⟨hscheme, huser, by decide +kernel, hshown, hlength, congrArg Prod.snd hrun⟩

end Launch

end Gatehouse
