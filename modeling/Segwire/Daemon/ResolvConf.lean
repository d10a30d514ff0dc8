import Segwire.Daemon.NetworkSettings
import Segwire.Foundation.Lines

/-!
# The `resolv.conf` of a namespace

The daemon writes the DNS settings of a namespace line by line and reads them back by the
keywords at the beginning of the trimmed lines. Servers and search domains are checked before
they are written and cannot disturb a line. Options are not checked at all: what does not come
back is an option that is empty, has white space around it, or is more than one line.

## Main definitions

* `ResolvConf.configureNamespaceDns`, `ResolvConf.getNamespaceDnsConfig` — the writer and the reader
* `parseResolvConf` — the contents, line by line
* `PlainOption` — an option that is one trimmed line

## Main results

* `parseResolvConf_content` — the lines that are written, read back
* `plainOption_of_parseResolvConf` — an option that is read is plain
* `ResolvConf.resolvConf_perform` — the file has the contents that a request leads to
* `ResolvConf.getNamespaceDnsConfig_eq_iff`
-/

namespace Segwire.Daemon

open Foundation Foundation.Text Segwire.Common

/-! ### Reading -/

/-- No DNS settings. -/
def emptyDnsConfig : NetlinkDnsConfig := ⟨[], [], []⟩

/-- One line of the loop over the contents. -/
def readResolvLine (dns : NetlinkDnsConfig) (line : List Char) : NetlinkDnsConfig :=
  let line := trim line
  match line.dropPrefix? "nameserver ".toList with
  | some server => { dns with servers := dns.servers ++ [String.ofList (trim server)] }
  | none =>
    match line.dropPrefix? "search ".toList with
    | some domains =>
      { dns with searchDomains := (splitWhitespace domains).map String.ofList }
    | none =>
      match line.dropPrefix? "options ".toList with
      | some opt => { dns with options := dns.options ++ [String.ofList (trim opt)] }
      | none => dns

/-- The DNS settings that the contents give. -/
def parseResolvConf (content : String) : NetlinkDnsConfig :=
  (lines content.toList).foldl readResolvLine emptyDnsConfig

/-! ### The two functions -/

/-- `/etc/netns/{namespace_name}` -/
def netnsEtc (namespaceName : String) : PathBuf := ⟨["etc", "netns", namespaceName]⟩

/-- `/etc/netns/{namespace_name}/resolv.conf` -/
def resolvPath (namespaceName : String) : PathBuf := (netnsEtc namespaceName).join "resolv.conf"

namespace ResolvConf

variable (manager : NetlinkManager) (namespaceName : String)

/-- Configure DNS resolution in a namespace, on a disk and at a time. The simulation leaves the
disk alone. -/
def configureNamespaceDns (disk : Disk) (now : SystemTime) (dnsConfig : NetlinkDnsConfig) :
    SegwireResult Disk :=
  if manager.isSimulated then .ok disk
  else do
    validateNamespaceName namespaceName
    dnsConfig.validate
    manager.requireNamespace namespaceName
    let content := resolvConfContent dnsConfig
    let created ← (disk.createDirAll (netnsEtc namespaceName)).mapError fun e =>
      (NetlinkError.dnsConfigFailed namespaceName
        ("mkdir " ++ (netnsEtc namespaceName).display ++ ": " ++ e.message)).toSegwireError
    (created.write (resolvPath namespaceName) content now).mapError fun e =>
      (NetlinkError.dnsConfigFailed namespaceName
        ("create resolv.conf: " ++ e.message)).toSegwireError

/-- Get DNS configuration from a namespace. A file that cannot be read gives no settings. -/
def getNamespaceDnsConfig (fs : FileSystem) : SegwireResult NetlinkDnsConfig :=
  if manager.isSimulated then .ok emptyDnsConfig
  else do
    validateNamespaceName namespaceName
    manager.requireNamespace namespaceName
    match fs.readToString (resolvPath namespaceName) with
    | .ok content => return parseResolvConf content
    | .error _ => return emptyDnsConfig

end ResolvConf

/-! ### The lines that are written -/

/-- The pieces of the contents that a line feed is put after. -/
def resolvPieces (dns : NetlinkDnsConfig) : List (List Char) :=
  dns.servers.map (fun server => "nameserver ".toList ++ server.toList) ++
    (if dns.searchDomains = [] then []
      else ["search ".toList ++ [' '].intercalate (dns.searchDomains.map String.toList)]) ++
    dns.options.map fun opt => "options ".toList ++ opt.toList

theorem toList_resolvConfContent (dns : NetlinkDnsConfig) :
    (resolvConfContent dns).toList = (resolvPieces dns).flatMap (· ++ ['\n']) := by
  have hlines (keyword : String) (values : List String) :
      (String.join (values.map fun value => keyword ++ value ++ "\n")).toList =
        (values.map fun value => keyword.toList ++ value.toList).flatMap (· ++ ['\n']) := by
    rw [String.toList_join, List.flatMap_map, List.flatMap_map]
    simp
  have hsearch : (if dns.searchDomains = [] then ""
      else "search " ++ String.intercalate " " dns.searchDomains ++ "\n").toList =
        (if dns.searchDomains = [] then []
          else ["search ".toList ++
            [' '].intercalate (dns.searchDomains.map String.toList)]).flatMap (· ++ ['\n']) := by
    split_ifs
    · rfl
    · simp
  rw [resolvConfContent, String.toList_append, String.toList_append, hlines "nameserver ",
    hlines "options ", hsearch, resolvPieces, List.flatMap_append, List.flatMap_append]

theorem readResolvLine_stripCarriage (dns : NetlinkDnsConfig) (line : List Char) :
    readResolvLine dns (stripCarriage line) = readResolvLine dns line := by
  unfold readResolvLine
  rw [trim_stripCarriage]

/-- The contents are read piece by piece. -/
theorem parseResolvConf_content (dns : NetlinkDnsConfig) :
    parseResolvConf (resolvConfContent dns) =
      ((resolvPieces dns).flatMap (·.splitOn '\n')).foldl readResolvLine emptyDnsConfig := by
  rw [parseResolvConf, toList_resolvConfContent, lines_flatMap, List.foldl_map]
  simp only [readResolvLine_stripCarriage]

section Lines

variable {dns : NetlinkDnsConfig} {text : List Char}

theorem readResolvLine_nameserver (h : Token text) :
    readResolvLine dns ("nameserver ".toList ++ text) =
      { dns with servers := dns.servers ++ [String.ofList text] } := by
  have htrim : trim ("nameserver ".toList ++ text) = "nameserver ".toList ++ text :=
    trim_append h.1 h.trim_eq rfl (by decide)
  rw [readResolvLine, htrim, List.dropPrefix?_append_of_beq _ (beq_self_eq_true _)]
  dsimp only
  rw [h.trim_eq]

theorem readResolvLine_search {tokens : List (List Char)} (h : ∀ token ∈ tokens, Token token)
    (hne : tokens ≠ []) :
    readResolvLine dns ("search ".toList ++ [' '].intercalate tokens) =
      { dns with searchDomains := tokens.map String.ofList } := by
  obtain ⟨hjoined, htrimmed⟩ := trim_intercalate h hne
  have htrim : trim ("search ".toList ++ [' '].intercalate tokens) =
      "search ".toList ++ [' '].intercalate tokens :=
    trim_append hjoined htrimmed rfl (by decide)
  have hother : ("search ".toList ++ [' '].intercalate tokens).dropPrefix? "nameserver ".toList =
      none := rfl
  rw [readResolvLine, htrim, hother, List.dropPrefix?_append_of_beq _ (beq_self_eq_true _)]
  dsimp only
  rw [splitWhitespace_intercalate h]

theorem readResolvLine_options (hne : text ≠ []) (htrimmed : trim text = text) :
    readResolvLine dns ("options ".toList ++ text) =
      { dns with options := dns.options ++ [String.ofList text] } := by
  have htrim : trim ("options ".toList ++ text) = "options ".toList ++ text :=
    trim_append hne htrimmed rfl (by decide)
  have hserver : ("options ".toList ++ text).dropPrefix? "nameserver ".toList = none := rfl
  have hsearch : ("options ".toList ++ text).dropPrefix? "search ".toList = none := rfl
  rw [readResolvLine, htrim, hserver, hsearch,
    List.dropPrefix?_append_of_beq _ (beq_self_eq_true _)]
  dsimp only
  rw [htrimmed]

end Lines

/-! ### Plain options -/

/-- An option that is one line, not empty, and without white space around it. -/
def PlainOption (opt : String) : Prop :=
  opt ≠ "" ∧ trim opt.toList = opt.toList ∧ '\n' ∉ opt.toList

instance (opt : String) : Decidable (PlainOption opt) :=
  inferInstanceAs (Decidable (opt ≠ "" ∧ trim opt.toList = opt.toList ∧ '\n' ∉ opt.toList))

/-- The text after the keyword of a trimmed line is not blank. -/
theorem not_blank_of_options {line rest : List Char}
    (h : trim line = "options ".toList ++ rest) : ¬ Blank rest := by
  intro hblank
  have hpost : Blank (' ' :: rest) := by
    intro c hc
    rcases List.mem_cons.mp hc with rfl | hc
    · decide
    · exact hblank c hc
  -- the line would have been trimmed to the keyword without its space
  have hsplit : trim line = [] ++ "options".toList ++ ' ' :: rest := h
  have hshort : trim (trim line) = "options".toList := by
    rw [hsplit, trim_padded blank_nil hpost]
    decide
  rw [trim_trim, h] at hshort
  have hlength := congrArg List.length hshort
  rw [List.length_append] at hlength
  have hkeyword : "options ".toList.length = 8 ∧ "options".toList.length = 7 := by decide
  omega

/-- An option that is read is plain. -/
theorem plainOption_of_readResolvLine {dns : NetlinkDnsConfig} {line : List Char}
    (hdns : ∀ opt ∈ dns.options, PlainOption opt) (hline : '\n' ∉ line) :
    ∀ opt ∈ (readResolvLine dns line).options, PlainOption opt := by
  unfold readResolvLine
  dsimp only
  split
  · exact hdns
  · split
    · exact hdns
    · split
      · next rest hrest =>
        obtain ⟨keyword, hkeyword, hsame⟩ := List.dropPrefix?_eq_some_iff.mp hrest
        obtain rfl := eq_of_beq hsame
        -- the option is the rest of the line, trimmed
        have hplain : PlainOption (String.ofList (trim rest)) := by
          rw [PlainOption, String.toList_ofList]
          refine ⟨fun hempty => ?_, trim_trim rest, fun hmem => hline ?_⟩
          · have hnil := congrArg String.toList hempty
            rw [String.toList_ofList] at hnil
            exact not_blank_of_options hkeyword (trim_eq_nil_iff.mp hnil)
          · obtain ⟨pre, post, -, -, hpadded⟩ := exists_trim line
            obtain ⟨pre', post', -, -, hpadded'⟩ := exists_trim rest
            rw [hpadded, hkeyword, hpadded']
            simp [hmem]
        intro opt hopt
        rcases List.mem_append.mp hopt with hopt | hopt
        · exact hdns opt hopt
        · rwa [List.mem_singleton.mp hopt]
      · exact hdns

/-- All options that the contents give are plain. -/
theorem plainOption_of_parseResolvConf (content : String) :
    ∀ opt ∈ (parseResolvConf content).options, PlainOption opt := by
  have hloop (lines : List (List Char)) (hlines : ∀ line ∈ lines, '\n' ∉ line)
      (dns : NetlinkDnsConfig) (hdns : ∀ opt ∈ dns.options, PlainOption opt) :
      ∀ opt ∈ (lines.foldl readResolvLine dns).options, PlainOption opt := by
    induction lines generalizing dns with
    | nil => exact hdns
    | cons line lines ih =>
      obtain ⟨hline, hlines⟩ := List.forall_mem_cons.mp hlines
      exact ih hlines _ (plainOption_of_readResolvLine hdns hline)
  exact hloop _ (fun line => newline_notMem_of_mem_lines) emptyDnsConfig (List.forall_mem_nil _)

/-! ### The round trip -/

theorem isWhitespace_of_isAlphanum {c : Char} (h : c.isAlphanum = true) :
    isWhitespace c = false := by
  rw [isAlphanum_iff, isAlpha_iff, isUpper_iff_toNat, isLower_iff_toNat, isDigit_iff_toNat] at h
  apply isWhitespace_of_visible
  · omega
  · omega

theorem isWhitespace_of_isHexDigit {c : Char} (h : isHexDigit c = true) :
    isWhitespace c = false := by
  have hbounds : 'a'.toNat = 97 ∧ 'f'.toNat = 102 ∧ 'A'.toNat = 65 ∧ 'F'.toNat = 70 := by decide
  simp only [isHexDigit, Bool.or_eq_true, decide_eq_true_eq, char_le_iff, isDigit_iff_toNat] at h
  apply isWhitespace_of_visible
  · omega
  · omega

theorem isWhitespace_of_isNameChar {c : Char} (h : isNameChar c = true) :
    isWhitespace c = false := by
  rw [isNameChar, Bool.or_eq_true, beq_iff_eq] at h
  rcases h with halphanum | rfl
  · exact isWhitespace_of_isAlphanum halphanum
  · decide

/-- What passes the check for an address is a token. -/
theorem token_of_validateIpAddress {ip : String} (h : validateIpAddress ip = .ok ()) :
    Token ip.toList := by
  refine ⟨?_, fun c hc => ?_⟩
  · intro hempty
    rw [String.toList_eq_nil_iff.mp hempty] at h
    revert h
    decide
  · rcases mem_of_validateIpAddress h hc with hmark | hhex
    · have hmarks : ['.', ':', '+'].all (isWhitespace · = false) = true := by decide
      exact of_decide_eq_true (List.all_eq_true.mp hmarks c hmark)
    · exact isWhitespace_of_isHexDigit hhex

/-- What passes the check for a domain name is a token. -/
theorem token_of_validateDomainName {domain : String} (h : validateDomainName domain = .ok ()) :
    Token domain.toList := by
  refine ⟨?_, fun c hc => ?_⟩
  · intro hempty
    rw [String.toList_eq_nil_iff.mp hempty] at h
    revert h
    decide
  · rcases mem_of_validateDomainName h hc with rfl | hname
    · decide
    · exact isWhitespace_of_isNameChar hname

section Pieces

variable {values : List String}

theorem foldl_nameserver (h : ∀ server ∈ values, validateIpAddress server = .ok ())
    (dns : NetlinkDnsConfig) :
    ((values.map fun server => "nameserver ".toList ++ server.toList).flatMap
        (·.splitOn '\n')).foldl readResolvLine dns =
      { dns with servers := dns.servers ++ values } := by
  induction values generalizing dns with
  | nil => simp
  | cons server values ih =>
    obtain ⟨hserver, hvalues⟩ := List.forall_mem_cons.mp h
    have htoken := token_of_validateIpAddress hserver
    -- so the line for the server is one line, which gives the server back
    have hfree : '\n' ∉ "nameserver ".toList ++ server.toList := by
      rw [List.mem_append, not_or]
      exact ⟨by decide, htoken.newline_notMem⟩
    rw [List.map_cons, List.flatMap_cons, List.splitOn_eq_singleton hfree, List.singleton_append,
      List.foldl_cons, readResolvLine_nameserver htoken, ih hvalues]
    simp

theorem foldl_options (h : ∀ opt ∈ values, PlainOption opt) (dns : NetlinkDnsConfig) :
    ((values.map fun opt => "options ".toList ++ opt.toList).flatMap
        (·.splitOn '\n')).foldl readResolvLine dns =
      { dns with options := dns.options ++ values } := by
  induction values generalizing dns with
  | nil => simp
  | cons opt values ih =>
    obtain ⟨⟨hne, htrim, hline⟩, hvalues⟩ := List.forall_mem_cons.mp h
    have hfree : '\n' ∉ "options ".toList ++ opt.toList := by
      rw [List.mem_append, not_or]
      exact ⟨by decide, hline⟩
    have hne' : opt.toList ≠ [] := fun hnil => hne (String.toList_eq_nil_iff.mp hnil)
    rw [List.map_cons, List.flatMap_cons, List.splitOn_eq_singleton hfree, List.singleton_append,
      List.foldl_cons, readResolvLine_options hne' htrim, ih hvalues]
    simp

theorem foldl_search (h : ∀ domain ∈ values, validateDomainName domain = .ok ())
    (dns : NetlinkDnsConfig) (hdns : dns.searchDomains = []) :
    ((if values = [] then []
        else ["search ".toList ++ [' '].intercalate (values.map String.toList)]).flatMap
        (·.splitOn '\n')).foldl readResolvLine dns =
      { dns with searchDomains := values } := by
  split_ifs with hnone
  · -- no line is written, and the list stays empty
    rw [hnone, ← hdns]
    rfl
  · have htokens : ∀ token ∈ values.map String.toList, Token token := by
      rw [List.forall_mem_map]
      exact fun domain hdomain => token_of_validateDomainName (h domain hdomain)
    have hfree : '\n' ∉ "search ".toList ++ [' '].intercalate (values.map String.toList) := by
      rw [List.mem_append, not_or]
      refine ⟨by decide, fun hmem => ?_⟩
      rcases mem_intercalate hmem with hspace | ⟨token, htoken, hmem⟩
      · revert hspace
        decide
      · exact (htokens token htoken).newline_notMem hmem
    rw [List.flatMap_cons, List.flatMap_nil, List.append_nil, List.splitOn_eq_singleton hfree,
      List.foldl_cons, List.foldl_nil, readResolvLine_search htokens (by simpa using hnone)]
    simp

end Pieces

/-- The contents that are written for accepted settings give the same settings again iff their
options are plain. -/
theorem parseResolvConf_content_eq_iff {dns : NetlinkDnsConfig} (h : dns.validate = .ok ()) :
    parseResolvConf (resolvConfContent dns) = dns ↔ ∀ opt ∈ dns.options, PlainOption opt := by
  constructor
  · intro hsame
    rw [← hsame]
    exact plainOption_of_parseResolvConf _
  · intro hplain
    obtain ⟨-, hservers, hdomains⟩ := NetlinkDnsConfig.validate_eq_ok_iff.mp h
    rw [parseResolvConf_content, resolvPieces, List.flatMap_append, List.flatMap_append,
      List.foldl_append, List.foldl_append, foldl_nameserver hservers, foldl_search hdomains _ rfl,
      foldl_options hplain]
    rfl

namespace ResolvConf

variable {manager : NetlinkManager} {namespaceName : String} {disk disk' : Disk}
  {now : SystemTime} {dnsConfig : NetlinkDnsConfig}

/-- What a machine has checked before it writes, and what it writes. -/
theorem configureNamespaceDns_real (hreal : manager.isSimulated = false)
    (h : configureNamespaceDns manager namespaceName disk now dnsConfig = .ok disk')
    (o : IterOrder PathBuf) :
    validateNamespaceName namespaceName = .ok () ∧ dnsConfig.validate = .ok () ∧
      manager.requireNamespace namespaceName = .ok () ∧
      (disk'.fileSystem o).readToString (resolvPath namespaceName) =
        .ok (resolvConfContent dnsConfig) := by
  unfold configureNamespaceDns at h
  rw [hreal, if_neg Bool.false_ne_true] at h
  obtain ⟨hname, h⟩ := Except.check_bind_eq_ok_iff.mp h
  obtain ⟨hvalid, h⟩ := Except.check_bind_eq_ok_iff.mp h
  obtain ⟨hexists, h⟩ := Except.check_bind_eq_ok_iff.mp h
  obtain ⟨created, -, h⟩ := Except.bind_eq_ok_iff.mp h
  rw [Except.mapError_eq_ok_iff] at h
  exact ⟨hname, hvalid, hexists, Disk.readToString_write h o⟩

/-- The file has the contents that the request leads to. -/
theorem resolvConf_perform {κ ρ σ : Type} [DecidableEq κ] (kernel : Kernel κ ρ σ)
    (settings : NetworkSettings κ ρ σ) (hreal : manager.isSimulated = false)
    (h : configureNamespaceDns manager namespaceName disk now dnsConfig = .ok disk')
    (o : IterOrder PathBuf) :
    ∃ content, (disk'.fileSystem o).readToString (resolvPath namespaceName) = .ok content ∧
      (kernel.perform manager namespaceName settings
        (.configureDns namespaceName dnsConfig)).resolvConf = some content := by
  obtain ⟨hname, hvalid, hexists, hread⟩ := configureNamespaceDns_real hreal h o
  have hpresent : manager.namespaceExists namespaceName = true := by
    by_contra habsent
    rw [NetlinkManager.requireNamespace, if_neg habsent] at hexists
    cases hexists
  refine ⟨_, hread, ?_⟩
  rw [Kernel.perform, if_pos ⟨rfl, hname, hvalid, hpresent⟩]

section Fixture

/-- The machine with the namespace `new-one`. -/
def withNamespace : NetlinkManager :=
  (beforeCreation.createNewNamespace unrouted).2.netlinkManager

/-- The disk after these settings have been written for it, from an empty one. -/
def writtenDisk (dnsConfig : NetlinkDnsConfig) : Disk where
  files := (∅ : HashMap PathBuf DiskFile).insert (resolvPath "new-one")
    ⟨resolvConfContent dnsConfig, 0⟩
  dirs := ∅ ∪ ((netnsEtc "new-one").components.inits.map PathBuf.mk).toFinset

theorem configureNamespaceDns_fixture {dnsConfig : NetlinkDnsConfig}
    (h : dnsConfig.validate = .ok ()) :
    configureNamespaceDns withNamespace "new-one" ⟨∅, ∅⟩ 0 dnsConfig =
      .ok (writtenDisk dnsConfig) := by
  have hreal : withNamespace.isSimulated = false := by decide
  have hname : validateNamespaceName "new-one" = .ok () := by decide
  have hexists : withNamespace.requireNamespace "new-one" = .ok () := by decide
  have hcreate : (⟨∅, ∅⟩ : Disk).createDirAll (netnsEtc "new-one") =
      .ok ⟨∅, ∅ ∪ ((netnsEtc "new-one").components.inits.map PathBuf.mk).toFinset⟩ := rfl
  unfold configureNamespaceDns
  rw [hreal, if_neg Bool.false_ne_true, hname, h, hexists, hcreate]
  rfl

end Fixture

/-- Reading back what a machine has written gives the same settings iff the options are plain. -/
theorem getNamespaceDnsConfig_eq_iff (manager : NetlinkManager)
    (hreal : manager.isSimulated = false) (namespaceName : String) (disk disk' : Disk)
    (now : SystemTime) (dnsConfig : NetlinkDnsConfig) (o : IterOrder PathBuf)
    (hwritten : configureNamespaceDns manager namespaceName disk now dnsConfig = .ok disk') :
    getNamespaceDnsConfig manager namespaceName (disk'.fileSystem o) = .ok dnsConfig ↔
      ∀ opt ∈ dnsConfig.options, PlainOption opt := by
  obtain ⟨hname, hvalid, hexists, hread⟩ := configureNamespaceDns_real hreal hwritten o
  rw [← parseResolvConf_content_eq_iff hvalid, getNamespaceDnsConfig, hreal,
    if_neg Bool.false_ne_true, hname, hexists, hread]
  exact Except.pure_eq_ok_iff

theorem getNamespaceDnsConfig_ndots :
    getNamespaceDnsConfig withNamespace "new-one"
        ((writtenDisk ⟨["10.0.0.53"], ["lab.example.org"], ["ndots:5"]⟩).fileSystem .sorted) =
      .ok ⟨["10.0.0.53"], ["lab.example.org"], ["ndots:5"]⟩ ↔
      ∀ opt ∈ ["ndots:5"], PlainOption opt :=
  getNamespaceDnsConfig_eq_iff withNamespace (by decide) "new-one" ⟨∅, ∅⟩ _ 0
    ⟨["10.0.0.53"], ["lab.example.org"], ["ndots:5"]⟩ .sorted
    (configureNamespaceDns_fixture (by decide))

/-- An option that goes on with another line adds a server. -/
theorem not_reads_back_server :
    ¬ ∀ (manager : NetlinkManager) (namespaceName : String) (disk disk' : Disk)
        (now : SystemTime) (dnsConfig : NetlinkDnsConfig), manager.isSimulated = false →
        dnsConfig.validate = .ok () →
        configureNamespaceDns manager namespaceName disk now dnsConfig = .ok disk' →
          getNamespaceDnsConfig manager namespaceName (disk'.fileSystem .sorted) =
            .ok dnsConfig := by
  intro hclaim
  have hvalid : NetlinkDnsConfig.validate
      ⟨["10.0.0.53"], [], ["ndots:5\nnameserver 203.0.113.9"]⟩ = .ok () := by
    decide
  have hsame := hclaim withNamespace "new-one" ⟨∅, ∅⟩ _ 0
    ⟨["10.0.0.53"], [], ["ndots:5\nnameserver 203.0.113.9"]⟩ (by decide) hvalid
    (configureNamespaceDns_fixture hvalid)
  have hread : getNamespaceDnsConfig withNamespace "new-one" ((writtenDisk
      ⟨["10.0.0.53"], [], ["ndots:5\nnameserver 203.0.113.9"]⟩).fileSystem .sorted) =
      .ok ⟨["10.0.0.53", "203.0.113.9"], [], ["ndots:5"]⟩ := by
    decide +kernel
  rw [hread] at hsame
  revert hsame
  decide

end ResolvConf

end Segwire.Daemon
