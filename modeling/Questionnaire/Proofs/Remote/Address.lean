/-
Where a client's requests go.

A client writes the link behind the address of its server, and the server takes the address apart
again, twice, before it looks up the path.  Nothing in the address is lost or read as something
else: the server stands between slashes, and a link of hexadecimal digits has no character that
parts an address.  So what a client asks under a link leads to the endpoint for that link on the
server that the client `Reaches`.
-/
import Questionnaire.Proofs.Text.Plain
import Questionnaire.Api.Loopback

namespace Questionnaire

namespace Api

variable {c : Char} {cs server path : List Char} {scheme : String}

/-! ### Reading an address -/

/-- A character that stands for itself in a path: ASCII from the slash on, and not one of the
marks that part an address. -/
def IsPathChar (c : Char) : Prop := 0x2F ≤ c.toNat ∧ c.toNat < 0x80 ∧ c ≠ ':' ∧ c ≠ '?'

instance : DecidablePred IsPathChar := fun c =>
  inferInstanceAs (Decidable (0x2F ≤ c.toNat ∧ c.toNat < 0x80 ∧ c ≠ ':' ∧ c ≠ '?'))

theorem notMem_of_isPathChar (h : ∀ c ∈ cs, IsPathChar c) (hc : ¬IsPathChar c) : c ∉ cs :=
  fun hmem => hc (h c hmem)

/-- A character that stands for itself in the name of a server. -/
def IsServerChar (c : Char) : Prop := 0x20 < c.toNat ∧ c ≠ '/' ∧ c ≠ '?' ∧ c ≠ '#'

instance : DecidablePred IsServerChar := fun c =>
  inferInstanceAs (Decidable (0x20 < c.toNat ∧ c ≠ '/' ∧ c ≠ '?' ∧ c ≠ '#'))

/-- An address without blanks and controls is read as it stands. -/
theorem read_eq (h : ∀ c ∈ cs, 0x20 < c.toNat) {rest : List Char}
    (hscheme : readScheme cs = (scheme, rest)) (hserver : readServer rest = (server, path))
    (hreadable : Host.isReadable server = true) (hpath : ∀ c ∈ path, IsPathChar c) :
    Address.read (String.ofList cs) =
      .ok ⟨scheme, String.ofList server, String.ofList path, ""⟩ := by
  have hfront : cs.dropWhile (·.toNat ≤ 0x20) = cs := by
    cases cs with
    | nil => rfl
    | cons c cs => exact List.dropWhile_cons_of_neg (by simpa using h c List.mem_cons_self)
  have hall : cs.filter (fun c => c ≠ '\t' && c ≠ '\n' && c ≠ '\r') = cs := by
    rw [List.filter_eq_self]
    intro c hc
    have hlarge := h c hc
    simp only [Bool.and_eq_true, decide_eq_true_eq]
    refine ⟨⟨?_, ?_⟩, ?_⟩ <;> rintro rfl <;> exact absurd hlarge (by decide)
  simp only [Address.read, String.toList_ofList, hfront, hall, hscheme, hserver, hreadable,
    if_true, Text.splitFirst_of_notMem (notMem_of_isPathChar hpath (c := '#') (by decide)),
    Text.splitFirst_of_notMem (notMem_of_isPathChar hpath (c := '?') (by decide)),
    Option.getD_none]

/-- A path that begins with a single slash names no server. -/
theorem read_path (h : ∀ d ∈ '/' :: c :: cs, IsPathChar d) (hc : c ≠ '/') :
    Address.read (String.ofList ('/' :: c :: cs)) =
      .ok ⟨"", "", String.ofList ('/' :: c :: cs), ""⟩ := by
  have hscheme : readScheme ('/' :: c :: cs) = ("", '/' :: c :: cs) := by
    rw [readScheme, Text.splitFirst_of_notMem (notMem_of_isPathChar h (by decide))]
  have hserver : readServer ('/' :: c :: cs) = ([], '/' :: c :: cs) := by
    unfold readServer
    split
    case h_1 heq => exact absurd (List.cons.inj (List.cons.inj heq).2).1 hc
    case h_2 => rfl
  exact read_eq (fun d hd => Nat.lt_of_lt_of_le (by decide) (h d hd).1) hscheme hserver
    (by decide) h

/-- A server stands between two slashes and a third one. -/
theorem read_server (hknown : scheme = "http" ∨ scheme = "https")
    (hserver : ∀ c ∈ server, IsServerChar c) (hreadable : Host.isReadable server = true)
    (hpath : ∀ c ∈ '/' :: path, IsPathChar c) :
    Address.read (String.ofList (scheme.toList ++ ':' :: '/' :: '/' :: (server ++ '/' :: path))) =
      .ok ⟨scheme, String.ofList server, String.ofList ('/' :: path), ""⟩ := by
  have hunbroken : ∀ c ∈ scheme.toList ++ ':' :: '/' :: '/' :: (server ++ '/' :: path),
      0x20 < c.toNat := by
    have hfront : ∀ c ∈ scheme.toList ++ [':', '/', '/'], 0x20 < c.toNat := by
      rcases hknown with rfl | rfl <;> exact Text.forall_of_all (by decide +kernel)
    have hback : ∀ c ∈ server ++ '/' :: path, 0x20 < c.toNat := by
      intro c hc
      rcases List.mem_append.mp hc with hc | hc
      · exact (hserver c hc).1
      · exact Nat.lt_of_lt_of_le (by decide) (hpath c hc).1
    intro c hc
    rw [show scheme.toList ++ ':' :: '/' :: '/' :: (server ++ '/' :: path) =
      (scheme.toList ++ [':', '/', '/']) ++ (server ++ '/' :: path) by simp] at hc
    exact (List.mem_append.mp hc).elim (hfront c) (hback c)
  have hreadScheme : readScheme (scheme.toList ++ ':' :: '/' :: '/' :: (server ++ '/' :: path)) =
      (scheme, '/' :: '/' :: (server ++ '/' :: path)) := by
    rcases hknown with rfl | rfl <;>
      rw [readScheme, Text.splitFirst_append (by decide)] <;> rfl
  have hreadServer : readServer ('/' :: '/' :: (server ++ '/' :: path)) =
      (server, '/' :: path) := by
    have hinside : ∀ c ∈ server, (c ≠ '/' && c ≠ '?' && c ≠ '#') = true := by
      intro c hc
      simpa [and_assoc] using (hserver c hc).2
    simp only [readServer]
    rw [List.takeWhile_append_of_pos hinside, List.dropWhile_append_of_pos hinside,
      List.takeWhile_cons_of_neg (by decide), List.dropWhile_cons_of_neg (by decide),
      List.append_nil]
  exact read_eq hunbroken hreadScheme hreadServer hreadable hpath

/-- A request whose address names a server and a path is for that path on that server. -/
theorem targetOf_eq {name : List Char} (hknown : scheme = "http" ∨ scheme = "https")
    (hserver : ∀ c ∈ server, IsServerChar c) (hnamed : server ≠ [])
    (hreadable : Host.isReadable server = true) (hname : Host.serverName server = .ok name)
    (hpath : ∀ d ∈ '/' :: c :: cs, IsPathChar d) (hc : c ≠ '/') :
    targetOf (String.ofList (scheme.toList ++ ':' :: '/' :: '/' :: (server ++ '/' :: c :: cs))) =
      { scheme, server := String.ofList name, path := String.ofList ('/' :: c :: cs) } := by
  have hplain : Text.Plain ('/' :: c :: cs) := by
    intro d hd
    refine ⟨(hpath d hd).2.1, ?_⟩
    rintro rfl
    exact absurd (hpath '%' hd) (by decide)
  have hrooted : rooted (String.ofList ('/' :: c :: cs)) = String.ofList ('/' :: c :: cs) := by
    rw [rooted, String.toList_ofList, List.dropWhile_cons_of_pos (by simp),
      List.dropWhile_cons_of_neg (by simpa using hc)]
  have hscheme : scheme ≠ "" := by
    rcases hknown with rfl | rfl <;> decide
  have hserverName : (String.ofList server = "") = False := by simpa using hnamed
  have hpathRead := read_path hpath hc
  have hread : Target.read (String.ofList
      (scheme.toList ++ ':' :: '/' :: '/' :: (server ++ '/' :: c :: cs))) =
      .ok { scheme, server := String.ofList name, path := String.ofList ('/' :: c :: cs) } := by
    simp only [Target.read, read_server hknown hserver hreadable hpath, bind, Except.bind,
      if_true, String.append_empty, hpathRead, sentPath, pure, Except.pure, String.empty_append,
      hserverName, if_false, Address.serverName, String.toList_ofList, hname, Except.map,
      if_neg hscheme, Text.unquote_of_plain hplain, hrooted]
    rfl
  rw [targetOf, hread]
  rfl

/-! ### The address of a link -/

/-- A link: hexadecimal digits, one at least. -/
structure IsLink (link : String) : Prop where
  ne_empty : link ≠ ""
  digits : ∀ c ∈ link.toList, (Json.hexDigit? c).isSome = true

theorem isPathChar_of_hexDigit (h : (Json.hexDigit? c).isSome = true) : IsPathChar c := by
  unfold Json.hexDigit? at h
  have hrange : ('0' ≤ c ∧ c ≤ '9') ∨ ('a' ≤ c ∧ c ≤ 'f') ∨ ('A' ≤ c ∧ c ≤ 'F') := by
    by_contra hnone
    simp only [not_or] at hnone
    simp only [Bool.and_eq_true, decide_eq_true_eq, if_neg hnone.1, if_neg hnone.2.1,
      if_neg hnone.2.2] at h
    cases h
  simp only [Char.le_def, UInt32.le_iff_toNat_le] at hrange
  have hrange : (0x30 ≤ c.toNat ∧ c.toNat ≤ 0x39) ∨ (0x61 ≤ c.toNat ∧ c.toNat ≤ 0x66) ∨
      (0x41 ≤ c.toNat ∧ c.toNat ≤ 0x46) := hrange
  refine ⟨by omega, by omega, ?_, ?_⟩ <;> rintro rfl <;> revert hrange <;> decide

/-- What a client asks for under a link: the questionnaire itself, or an action on it. -/
inductive Wish
  | fill | save | submit

namespace Wish

/-- The action, empty for the questionnaire itself. -/
def action : Wish → String
  | .fill => ""
  | .save => "save"
  | .submit => "submit"

/-- The method by which it is asked for. -/
def method : Wish → String
  | .fill => "GET"
  | .save | .submit => "POST"

/-- What answers it. -/
def endpoint (link : String) : Wish → Endpoint
  | .fill => .fill link
  | .save => .save link
  | .submit => .submit link

end Wish

/-- The path at which a wish is asked for under a link. -/
def linkPath (link : String) (wish : Wish) : List Char :=
  "/api/v1".toList ++ ("/fill/".toList ++ (link.toList ++
    if wish.action = "" then [] else '/' :: wish.action.toList))

variable {link : String}

theorem linkPath_eq_intercalate (link : String) (wish : Wish) :
    linkPath link wish = ['/'].intercalate ([] :: "api".toList :: "v1".toList :: "fill".toList ::
      link.toList :: if wish.action = "" then [] else [wish.action.toList]) := by
  unfold linkPath
  cases wish <;> simp [Wish.action, List.intercalate]

theorem exists_linkPath_eq_cons (link : String) (wish : Wish) :
    ∃ cs, linkPath link wish = '/' :: 'a' :: cs := by
  have hfront : "/api/v1".toList = '/' :: 'a' :: "pi/v1".toList := by decide
  unfold linkPath
  exact ⟨_, by rw [hfront, List.cons_append, List.cons_append]⟩

theorem isPathChar_linkPath (hlink : IsLink link) (wish : Wish) :
    ∀ c ∈ linkPath link wish, IsPathChar c := by
  have hfront : ∀ c ∈ "/api/v1".toList ++ "/fill/".toList, IsPathChar c :=
    Text.forall_of_all (by decide +kernel)
  have hback : ∀ c ∈ if wish.action = "" then [] else '/' :: wish.action.toList, IsPathChar c := by
    cases wish <;> exact Text.forall_of_all (by decide +kernel)
  intro c hc
  unfold linkPath at hc
  rw [← List.append_assoc] at hc
  rcases List.mem_append.mp hc with hc | hc
  · exact hfront c hc
  · rcases List.mem_append.mp hc with hc | hc
    · exact isPathChar_of_hexDigit (hlink.digits c hc)
    · exact hback c hc

/-- **A wish under a link is answered by the endpoint for it and that link.** -/
theorem route_linkPath (hlink : IsLink link) (wish : Wish) :
    route wish.method (String.ofList (linkPath link wish)) = .endpoint (wish.endpoint link) := by
  have hslash : '/' ∉ link.toList := by
    intro hmem
    exact absurd (hlink.digits '/' hmem) (by decide)
  have hmethods : methodsUnder (String.ofList (linkPath link wish)) =
      linkMethods link (if wish.action = "" then [] else [wish.action]) := by
    rw [methodsUnder, linkPath_eq_intercalate, Text.parts_intercalate (List.cons_ne_nil _ _)]
    · cases wish <;> simp [methodsAt, Wish.action, hlink.ne_empty]
    · cases wish <;> simp [Wish.action, hslash]
  rw [route, hmethods]
  cases wish <;> rfl

end Api

/-! ### The client of a server -/

/-- The client of a server under a name, by a scheme: its address and the name of the server are
such that it can be asked, and it fetches at least once. -/
structure Remote.Client.Reaches (c : Remote.Client) (scheme : String) (server name : List Char) :
    Prop where
  base : c.base.toList = scheme.toList ++ ':' :: '/' :: '/' :: server
  path : c.path = "/api/v1"
  tries : 0 ≤ c.retries
  known : scheme = "http" ∨ scheme = "https"
  called : server ≠ []
  plain : ∀ ch ∈ server, Api.IsServerChar ch
  readable : Host.isReadable server = true
  named : Host.serverName server = .ok name
  labelled : Host.isLabelled (Api.Request.host
    { target := { scheme, server := String.ofList name, path := "/" } }).toList = true

namespace Api

variable {c : Remote.Client} {scheme link : String} {server name : List Char}

/-- What a client asks under a link is asked of its server, at the path of the link. -/
theorem targetOf_url (hc : c.Reaches scheme server name) (hlink : IsLink link) (wish : Wish) :
    targetOf (c.url link wish.action) =
      { scheme, server := String.ofList name, path := String.ofList (linkPath link wish) } := by
  have hurl : c.url link wish.action = String.ofList
      (scheme.toList ++ ':' :: '/' :: '/' :: (server ++ linkPath link wish)) := by
    unfold linkPath
    rw [← String.toList_inj, Remote.Client.url, hc.path]
    split <;> simp only [String.toList_append, hc.base, String.toList_ofList, List.append_assoc,
      List.cons_append, List.append_nil]
    rfl
  have hpath := isPathChar_linkPath hlink wish
  obtain ⟨cs, hcs⟩ := exists_linkPath_eq_cons link wish
  rw [hurl]
  rw [hcs] at hpath ⊢
  exact targetOf_eq hc.known hc.plain hc.called hc.readable hc.named hpath (by decide)

end Api

end Questionnaire
