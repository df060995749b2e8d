import Gatehouse.Client
import Gatehouse.Proofs.Bytes.Base64
import Gatehouse.Proofs.Text.Trim

/-! # How clients are classified

What a client says of itself and what its connection shows are read with the blanks around them left
out, and a value that is blank counts as missing.  So a client is classified by what its six values
are but for padding (`Client.classify_of_alike`), and what it is called is neither empty nor padded
(`Client.tidy_deviceId`, `tidy_deviceName`, `tidy_platform`).  It is a browser exactly if it names
neither a device nor a platform and its user agent mentions no phone, and is then recognised by user
agent and address alone; `classify_by_content` puts this together.

The device id by itself depends on still less: on the device id that the client names and, for want
of that, on its user agent and its address (`Client.deviceId_of_alike`).  The flavor of the client,
which the other hints change, has no part in it. -/

namespace Gatehouse

theorem nonBlank_eq (s : Option String) : nonBlank s = Text.nonBlank? (s.getD "") := by
  cases s with
  | none => rfl
  | some text =>
      unfold nonBlank
      rw [Option.bind_some, Option.getD_some]

/-- Values that are the same but for padding are read alike. -/
theorem Text.Alike.nonBlank_eq {s t : Option String} (h : Alike s t) : nonBlank s = nonBlank t := by
  obtain ⟨core, hs, ht⟩ := h
  rw [Gatehouse.nonBlank_eq, Gatehouse.nonBlank_eq, nonBlank?, nonBlank?, hs.trim_eq, ht.trim_eq]

theorem nonBlank_eq_none_iff {s : Option String} : nonBlank s = none ↔ Text.Blank s := by
  rw [nonBlank_eq, Text.nonBlank?]
  unfold Text.Blank
  rw [← Text.trim_eq_empty_iff]
  split_ifs with h
  · exact iff_of_true rfl (String.isEmpty_iff.mp h)
  · exact iff_of_false nofun fun hblank => h (String.isEmpty_iff.mpr hblank)

/-- A value as it is read, or the empty text, is the trimmed text. -/
theorem getD_nonBlank (s : Option String) : (nonBlank s).getD "" = Text.trim (s.getD "") := by
  rw [nonBlank_eq, Text.nonBlank?]
  split_ifs with h
  · exact (String.isEmpty_iff.mp h).symm
  · rfl

theorem alike_nonBlank (s : Option String) : Text.Alike s (nonBlank s) := by
  refine ⟨Text.trim (s.getD ""), Text.padded_trim _, ?_⟩
  rw [getD_nonBlank]
  exact .refl _

/-- The hints are the same but for padding. -/
structure ClientHints.Alike (h h' : ClientHints) : Prop where
  deviceId : Text.Alike h.deviceId h'.deviceId
  deviceName : Text.Alike h.deviceName h'.deviceName
  platform : Text.Alike h.platform h'.platform
  appVersion : Text.Alike h.appVersion h'.appVersion

/-- The connections show the same but for padding. -/
structure Transport.Alike (t t' : Transport) : Prop where
  userAgent : Text.Alike t.userAgent t'.userAgent
  ipAddress : Text.Alike t.ipAddress t'.ipAddress

theorem ClientHints.Alike.refl (h : ClientHints) : h.Alike h :=
  ⟨.refl _, .refl _, .refl _, .refl _⟩

theorem Transport.alike_ofRaw (t : Transport) : t.Alike (ofRaw t.userAgent t.ipAddress) :=
  ⟨alike_nonBlank _, alike_nonBlank _⟩

namespace Client

/-! ### Padding -/

/-- The device id is the one that the client names, or else a fingerprint of its user agent and its
address. -/
theorem deviceId_classify (hints : ClientHints) (transport : Transport) :
    (classify hints transport).deviceId = (nonBlank hints.deviceId).getD
      (fingerprint ((nonBlank transport.userAgent).getD "")
        ((nonBlank transport.ipAddress).getD "")) := rfl

/-- A client that names the same device over the same connection, padded or not, is on the same
device, whatever else it says of itself. -/
theorem deviceId_of_alike {hints hints' : ClientHints} {transport transport' : Transport}
    (hdevice : Text.Alike hints.deviceId hints'.deviceId)
    (hagent : Text.Alike transport.userAgent transport'.userAgent)
    (haddress : Text.Alike transport.ipAddress transport'.ipAddress) :
    (classify hints' transport').deviceId = (classify hints transport).deviceId := by
  rw [deviceId_classify, deviceId_classify, hdevice.nonBlank_eq, hagent.nonBlank_eq,
    haddress.nonBlank_eq]

theorem classify_of_alike {hints hints' : ClientHints} {transport transport' : Transport}
    (hhints : hints.Alike hints') (htransport : transport.Alike transport') :
    classify hints' transport' = classify hints transport := by
  unfold classify
  rw [hhints.deviceId.nonBlank_eq, hhints.deviceName.nonBlank_eq, hhints.platform.nonBlank_eq,
    hhints.appVersion.nonBlank_eq, htransport.userAgent.nonBlank_eq,
    htransport.ipAddress.nonBlank_eq]

/-! ### What user agents mention -/

theorem beginsWith_iff {part cs : List Char} : beginsWith cs part = true ↔ part <+: cs := by
  induction part generalizing cs with
  | nil => simp [beginsWith]
  | cons p part ih =>
      cases cs with
      | nil => simp [beginsWith]
      | cons c cs =>
          rw [beginsWith, Bool.and_eq_true, beq_iff_eq, ih, List.cons_prefix_cons]
          exact and_congr_left fun _ => eq_comm

theorem occursIn_iff {part cs : List Char} : occursIn part cs = true ↔ part <:+: cs := by
  induction cs with
  | nil => simp [occursIn]
  | cons c cs ih => rw [occursIn, Bool.or_eq_true, beginsWith_iff, ih, List.infix_cons_iff]

/-- Trimming hides no marker of a phone, for none of them holds a blank. -/
theorem isMobileAgent_trim (s : String) : isMobileAgent (Text.trim s) = true ↔
    ∃ marker ∈ mobileMarkers, marker.toList <:+: s.toList := by
  have hmarkers : ∀ marker ∈ mobileMarkers,
      marker.toList ≠ [] ∧ marker.toList.any Text.isBlank = false := by decide
  unfold isMobileAgent mentions
  rw [List.any_eq_true]
  refine exists_congr fun marker => and_congr_right fun hmarker => ?_
  obtain ⟨hne, hplain⟩ := hmarkers marker hmarker
  rw [occursIn_iff, (Text.padded_trim s).infix_iff hne (Text.notBlank_of_any hplain)]

/-! ### What a client is called -/

theorem tidy_of_nonBlank {s : Option String} {t : String} (h : nonBlank s = some t) :
    Text.Tidy t := by
  rw [nonBlank_eq] at h
  exact Text.tidy_of_nonBlank? h

/-- What a client says, or what it is called for want of that, is tidy if the latter is. -/
theorem tidy_getD {s : Option String} {t : String} (ht : Text.Tidy t) :
    Text.Tidy ((nonBlank s).getD t) := by
  cases h : nonBlank s with
  | none => exact ht
  | some value => exact tidy_of_nonBlank h

theorem length_fingerprint (userAgent ipAddress : String) :
    (fingerprint userAgent ipAddress).toList.length = fingerprintLength := by
  have hlength := Base64.length_le_encode Base64.standard
    (Sha256.digest (Bytes.ofText (userAgent ++ ":" ++ ipAddress)))
  rw [Sha256.length_digest, Sha256.digestBytes] at hlength
  unfold fingerprint
  rw [String.toList_ofList, List.length_take, fingerprintLength]
  omega

/-- The characters of Base64 are no blanks. -/
theorem notBlank_of_mem_fingerprint {userAgent ipAddress : String} {c : Char}
    (hc : c ∈ (fingerprint userAgent ipAddress).toList) : Text.isBlank c = false := by
  have hchars := Text.notBlank_of_any
    (show Base64.standard.chars.toList.any Text.isBlank = false by decide +kernel)
  unfold fingerprint at hc
  rw [String.toList_ofList] at hc
  rcases Base64.mem_chars_of_mem_encode Base64.proper_standard (List.mem_of_mem_take hc) with hc | hc
  · exact hchars c hc
  · rw [hc]
    rfl

theorem tidy_fingerprint (userAgent ipAddress : String) :
    Text.Tidy (fingerprint userAgent ipAddress) where
  nonempty h := by
    have hlength := length_fingerprint userAgent ipAddress
    rw [h] at hlength
    cases hlength
  first _ hc := notBlank_of_mem_fingerprint (List.mem_of_mem_head? hc)
  last _ hc := notBlank_of_mem_fingerprint (List.mem_of_mem_getLast? hc)

theorem tidy_browserName (userAgent : String) : Text.Tidy (browserName userAgent) := by
  unfold browserName
  split_ifs <;> exact Text.tidy_of_nonBlank?_self (by decide)

theorem tidy_defaultPlatform (flavor : Flavor) : Text.Tidy (defaultPlatform flavor) := by
  cases flavor <;> exact Text.tidy_of_nonBlank?_self (by decide)

/-! ### Browsers -/

theorem flavor_eq_web_iff {hints : ClientHints} {transport : Transport} :
    (classify hints transport).flavor = .web ↔
      Text.Blank hints.deviceId ∧ Text.Blank hints.platform ∧
        ¬ ∃ marker ∈ mobileMarkers, marker.toList <:+: (transport.userAgent.getD "").toList := by
  have hnone (s : Option String) : (nonBlank s).isSome = false ↔ Text.Blank s := by
    rw [Option.isSome_eq_false_iff, Option.isNone_iff_eq_none, nonBlank_eq_none_iff]
  rw [← isMobileAgent_trim, ← getD_nonBlank, ← hnone, ← hnone]
  unfold classify
  dsimp only
  split_ifs with hmobile
  · refine iff_of_false nofun ?_
    rintro ⟨hdevice, hplatform, hagent⟩
    rw [hdevice, hplatform, Bool.eq_false_iff.mpr hagent] at hmobile
    cases hmobile
  · refine iff_of_true rfl ?_
    rw [Bool.not_eq_true, Bool.or_eq_false_iff, Bool.or_eq_false_iff] at hmobile
    exact ⟨hmobile.1.1, hmobile.1.2, Bool.eq_false_iff.mp hmobile.2⟩

/-- **Clients are classified by content.**  Padding of a hint or of what the connection shows makes no
difference, nor do blank values in place of missing ones, nor whether the connection is read before.
What a client is called is neither empty nor padded.  It is a browser exactly if it names neither a
device nor a platform and no marker of a phone stands in its user agent; then its platform is the web
and its device id a fingerprint, of sixteen characters, of its user agent and its address. -/
theorem classify_by_content (hints : ClientHints) (transport : Transport) :
    let client := classify hints transport
    (∀ hints' transport', hints.Alike hints' → transport.Alike transport' →
      classify hints' transport' = client ∧
        classify hints' (.ofRaw transport'.userAgent transport'.ipAddress) = client) ∧
      Text.Tidy client.deviceId ∧ Text.Tidy client.deviceName ∧ Text.Tidy client.platform ∧
      (client.flavor = .web ↔ Text.Blank hints.deviceId ∧ Text.Blank hints.platform ∧
        ¬ ∃ marker ∈ mobileMarkers, marker.toList <:+: (transport.userAgent.getD "").toList) ∧
      (client.flavor = .web → client.platform = "web" ∧
        client.deviceId = fingerprint (Text.trim (transport.userAgent.getD ""))
          (Text.trim (transport.ipAddress.getD "")) ∧ client.deviceId.toList.length = 16) := by
  intro client
  refine ⟨fun hints' transport' hhints htransport => ?_, tidy_getD (tidy_fingerprint _ _),
    tidy_getD (tidy_browserName _), tidy_getD (tidy_defaultPlatform _), flavor_eq_web_iff,
    fun hweb => ?_⟩
  · have halike := classify_of_alike hhints htransport
    exact ⟨halike, (classify_of_alike (.refl _) transport'.alike_ofRaw).trans halike⟩
  · obtain ⟨hdevice, hplatform, _⟩ := flavor_eq_web_iff.mp hweb
    have hid : client.deviceId = fingerprint (Text.trim (transport.userAgent.getD ""))
        (Text.trim (transport.ipAddress.getD "")) := by
      rw [deviceId_classify, nonBlank_eq_none_iff.mpr hdevice, getD_nonBlank, getD_nonBlank]
      rfl
    refine ⟨?_, hid, ?_⟩
    · calc client.platform = (nonBlank hints.platform).getD (defaultPlatform client.flavor) := rfl
        _ = "web" := by
          rw [nonBlank_eq_none_iff.mpr hplatform, hweb]
          rfl
    · rw [hid]
      exact length_fingerprint _ _

end Client

namespace Sample

/-- What a browser says of itself: it names its device and its version with blanks only. -/
def laptopHints : ClientHints := ⟨some " ", some "Laptop\n", none, some " "⟩

/-- The same with blanks in other places. -/
def bareLaptopHints : ClientHints := ⟨none, some "Laptop", some " ", none⟩

/-- What the connection of the browser shows. -/
def laptopTransport : Transport := ⟨some " curl/8.0 ", some "10.0.0.1\r"⟩

/-- The same without blanks. -/
def bareLaptopTransport : Transport := ⟨some "curl/8.0", some "10.0.0.1"⟩

theorem blank_space : Text.Blank (some " ") := List.forall_mem_singleton.mpr rfl

theorem alike_laptopHints : laptopHints.Alike bareLaptopHints where
  deviceId := blank_space.alike_none
  deviceName := ⟨"Laptop",
    ⟨[], ['\n'], List.forall_mem_nil _, List.forall_mem_singleton.mpr rfl, rfl⟩, .refl _⟩
  platform := blank_space.alike_none.symm
  appVersion := blank_space.alike_none

theorem alike_laptopTransport : laptopTransport.Alike bareLaptopTransport where
  userAgent := ⟨"curl/8.0",
    ⟨[' '], [' '], List.forall_mem_singleton.mpr rfl, List.forall_mem_singleton.mpr rfl, rfl⟩,
    .refl _⟩
  ipAddress := ⟨"10.0.0.1",
    ⟨[], ['\r'], List.forall_mem_nil _, List.forall_mem_singleton.mpr rfl, rfl⟩, .refl _⟩

end Sample

namespace Client

/-- A browser that says nothing of itself but in blanks is the browser that says nothing. -/
theorem classify_by_content_laptop :
    Sample.laptopHints.Alike Sample.bareLaptopHints ∧
      Sample.laptopTransport.Alike Sample.bareLaptopTransport ∧
      classify Sample.bareLaptopHints Sample.bareLaptopTransport =
        classify Sample.laptopHints Sample.laptopTransport ∧
      (classify Sample.laptopHints Sample.laptopTransport).flavor = .web ∧
      (classify Sample.laptopHints Sample.laptopTransport).deviceId =
        fingerprint "curl/8.0" "10.0.0.1" := by
  obtain ⟨halike, _, _, _, hflavor, hbrowser⟩ :=
    classify_by_content Sample.laptopHints Sample.laptopTransport
  have hweb := hflavor.mpr
    ⟨Sample.blank_space, List.forall_mem_nil _, by decide +kernel⟩
  have htrim : Text.trim " curl/8.0 " = "curl/8.0" ∧ Text.trim "10.0.0.1\r" = "10.0.0.1" := by
    decide
  have hid := (hbrowser hweb).2.1
  exact ⟨Sample.alike_laptopHints, Sample.alike_laptopTransport,
    (halike _ _ Sample.alike_laptopHints Sample.alike_laptopTransport).1, hweb,
    hid.trans (congrArg₂ fingerprint htrim.1 htrim.2)⟩

end Client

end Gatehouse
