import DocStore.Unicode.Script

/-!
# DocStore — scripts that use a character

Some characters are used with several scripts. For each script the characters used with it are those
that belong to it, with those added that it shares. What is shared by some scripts alone no longer
counts as common to all, or as inherited from the character before.
-/

namespace DocStore

namespace Unicode

namespace ScriptExtension

/-- How the characters used with a script differ from those that belong to it, under a name of the
script. -/
structure Change where
  name : String
  added : String := ""
  removed : String := ""

/-- The scripts that differ. -/
def changes : List Change := [
  { name := "adlm",
    added :=
      "61F 640 204F 2E41" },
  { name := "arab",
    added :=
      "60C 61B 61F 640 64B-655 670 204F 2E41 FD3E-FD3F 102E0-102FB" },
  { name := "armn",
    added :=
      "308" },
  { name := "avst",
    added :=
      "B7 2E30-2E31" },
  { name := "beng",
    added :=
      "2BC 951-952 964-965 1CD0 1CD2 1CD5-1CD6 1CD8 1CE1 1CEA 1CED 1CF2 1CF5-1CF7 A8F1" },
  { name := "bopo",
    added :=
      "2C7 2C9-2CB 2D9 3001-3003 3008-3011 3013-301F 302A-302D 3030 3037 30FB FE45-FE46
       FF61-FF65" },
  { name := "bugi",
    added :=
      "A9CF" },
  { name := "buhd",
    added :=
      "1735-1736" },
  { name := "cari",
    added :=
      "B7 205A 205D 2E31" },
  { name := "aghb",
    added :=
      "304 331 35E" },
  { name := "cakm",
    added :=
      "9E6-9EF 1040-1049" },
  { name := "cher",
    added :=
      "300-302 304 30B-30C 323-324 330-331" },
  { name := "zyyy",
    removed :=
      "B7 2BC 2C7 2C9-2CB 2CD 2D7 2D9 374 60C 61B 61F 640 964-965 10FB 16EB-16ED 1735-1736
       1802-1803 1805 1CD3 1CE1 1CE9-1CEC 1CEE-1CF3 1CF5-1CF7 1CFA 202F 204F 205A 205D 2E17
       2E30-2E31 2E3C 2E41 2E43 2FF0-2FFF 3001-3003 3006 3008-3011 3013-301F 3030-3035 3037
       303C-303F 309B-309C 30A0 30FB-30FC 3190-319F 31C0-31E5 31EF 3220-3247 3280-32B0
       32C0-32CB 32FF 3358-3370 337B-337F 33E0-33FE A700-A707 A830-A839 A92E A9CF FD3E-FD3F
       FE45-FE46 FF61-FF65 FF70 FF9E-FF9F 10100-10102 10107-10133 10137-1013F 102E1-102FB
       1BCA0-1BCA3 1D360-1D371 1F250-1F251" },
  { name := "copt",
    added :=
      "B7 300 304-305 307 374-375 2E17 102E0-102FB" },
  { name := "cprt",
    added :=
      "10100-10102 10107-10133 10137-1013F" },
  { name := "cpmn",
    added :=
      "10100-10101" },
  { name := "cyrl",
    added :=
      "2BC 300-302 304-308/2 30B 311 485-486 1DF8 2E43" },
  { name := "deva",
    added :=
      "2BC 951-952 964-965 1CD0-1CF6 1CF8-1CF9 20F0 A830-A839" },
  { name := "dogr",
    added :=
      "964-96F A830-A839" },
  { name := "dupl",
    added :=
      "B7 307-308 30A 323-324 2E3C 1BCA0-1BCA3" },
  { name := "elba",
    added :=
      "B7 305" },
  { name := "ethi",
    added :=
      "30E" },
  { name := "gara",
    added :=
      "60C 61B 61F" },
  { name := "geor",
    added :=
      "B7 589 10FB 205A 2E31" },
  { name := "glag",
    added :=
      "B7 303 305 484 487 589 10FB 205A 2E43 A66F" },
  { name := "goth",
    added :=
      "B7 304-305 308 331" },
  { name := "gran",
    added :=
      "951-952 964-965 BE6-BF3 1CD0 1CD2-1CD3 1CF2-1CF4 1CF8-1CF9 20F0 1133B 11FD0-11FD1 11FD3" },
  { name := "grek",
    added :=
      "B7 300-301 304-308/2 313 342 345 374 1DC0-1DC1 205D" },
  { name := "gujr",
    added :=
      "951-952 964-965 A830-A839" },
  { name := "gong",
    added :=
      "B7 964-965" },
  { name := "guru",
    added :=
      "951-952 964-965 A830-A839" },
  { name := "gukh",
    added :=
      "965" },
  { name := "han",
    added :=
      "B7 2FF0-2FFF 3001-3003 3006 3008-3011 3013-301F 302A-302D 3030 3037 303C-303F 30FB
       3190-319F 31C0-31E5 31EF 3220-3247 3280-32B0 32C0-32CB 32FF 3358-3370 337B-337F
       33E0-33FE A700-A707 FE45-FE46 FF61-FF65 1D360-1D371 1F250-1F251" },
  { name := "hang",
    added :=
      "3001-3003 3008-3011 3013-301F 3030 3037 30FB FE45-FE46 FF61-FF65" },
  { name := "rohg",
    added :=
      "60C 61B 61F 640 6D4" },
  { name := "hano",
    added :=
      "1735-1736" },
  { name := "hebr",
    added :=
      "307-308" },
  { name := "hira",
    added :=
      "3001-3003 3008-3011 3013-301F 3030-3035 3037 303C-303D 3099-309C 30A0 30FB-30FC
       FE45-FE46 FF61-FF65 FF70 FF9E-FF9F" },
  { name := "qaai",
    removed :=
      "300-30E 310-311 313 320 323-325 32D-32E 330-331 342 345 358 35E 363-36F 485-486 64B-655
       670 951-952 1CD0-1CD2 1CD4-1CE0 1CE2-1CE8 1CED 1CF4 1CF8-1CF9 1DC0-1DC1 1DF8 1DFA 20F0
       302A-302D 3099-309A 102E0 1133B" },
  { name := "java",
    added :=
      "A9CF" },
  { name := "kthi",
    added :=
      "966-96F 2E31 A830-A839" },
  { name := "knda",
    added :=
      "951-952 964-965 1CD0 1CD2-1CD3 1CDA 1CF2 1CF4 A830-A835" },
  { name := "kana",
    added :=
      "305 323 3001-3003 3008-3011 3013-301F 3030-3035 3037 303C-303D 3099-309C 30A0 30FB-30FC
       FE45-FE46 FF61-FF65 FF70 FF9E-FF9F" },
  { name := "kali",
    added :=
      "A92E" },
  { name := "khoj",
    added :=
      "AE6-AEF A830-A839" },
  { name := "sind",
    added :=
      "964-965 A830-A839" },
  { name := "latn",
    added :=
      "B7 2BC 2C7 2C9-2CB 2CD 2D7 2D9 300-30E 310-311 313 320 323-325 32D-32E 330-331 358 35E
       363-36F 485-486 951-952 10FB 1DF8 202F 20F0 2E17 A700-A707 A92E" },
  { name := "limb",
    added :=
      "965" },
  { name := "lina",
    added :=
      "10107-10133" },
  { name := "linb",
    added :=
      "10100-10102 10107-10133 10137-1013F" },
  { name := "lisu",
    added :=
      "2BC 2CD 300A-300B" },
  { name := "lyci",
    added :=
      "205A" },
  { name := "lydi",
    added :=
      "B7 2E31" },
  { name := "mahj",
    added :=
      "B7 964-96F A830-A839" },
  { name := "mlym",
    added :=
      "951-952 964-965 1CDA 1CF2 A830-A832" },
  { name := "mand",
    added :=
      "640" },
  { name := "mani",
    added :=
      "640" },
  { name := "gonm",
    added :=
      "964-965" },
  { name := "mero",
    added :=
      "205D" },
  { name := "modi",
    added :=
      "A830-A839" },
  { name := "mong",
    added :=
      "1802-1803 1805 202F 3001-3002 3008-300B" },
  { name := "mult",
    added :=
      "A66-A6F" },
  { name := "mymr",
    added :=
      "A92E" },
  { name := "nand",
    added :=
      "964-965 CE6-CEF 1CE9 1CF2 1CFA A830-A835" },
  { name := "nko",
    added :=
      "60C 61B 61F FD3E-FD3F" },
  { name := "onao",
    added :=
      "964-965" },
  { name := "hung",
    added :=
      "205A 205D 2E31 2E41" },
  { name := "perm",
    added :=
      "B7 300 306-308 313 483" },
  { name := "orkh",
    added :=
      "205A 2E30" },
  { name := "ougr",
    added :=
      "640 10AF2" },
  { name := "orya",
    added :=
      "951-952 964-965 1CDA 1CF2" },
  { name := "osge",
    added :=
      "301 304 30B 358" },
  { name := "phag",
    added :=
      "1802-1803 1805 202F 3002" },
  { name := "phlp",
    added :=
      "640" },
  { name := "runr",
    added :=
      "16EB-16ED" },
  { name := "samr",
    added :=
      "2E31" },
  { name := "shrd",
    added :=
      "951 1CD7 1CD9 1CDC-1CDD 1CE0 A830-A835 A838" },
  { name := "shaw",
    added :=
      "B7" },
  { name := "sinh",
    added :=
      "964-965 1CF2" },
  { name := "sogd",
    added :=
      "640" },
  { name := "sunu",
    added :=
      "300-301 303 30D 310 32D 331" },
  { name := "sylo",
    added :=
      "964-965 9E6-9EF" },
  { name := "syrc",
    added :=
      "303-304 307-308 30A 320 323-325 32D-32E 330 60C 61B-61C 61F 640 64B-655 670 1DF8 1DFA" },
  { name := "tglg",
    added :=
      "1735-1736" },
  { name := "tagb",
    added :=
      "1735-1736" },
  { name := "tale",
    added :=
      "300-301 307-308 30C 1040-1049" },
  { name := "takr",
    added :=
      "964-965 A830-A839" },
  { name := "taml",
    added :=
      "951-952 964-965 1CDA A8F3 11301 11303 1133B-1133C" },
  { name := "tang",
    added :=
      "2FF0-2FFF 31EF" },
  { name := "telu",
    added :=
      "951-952 964-965 1CDA 1CF2" },
  { name := "thaa",
    added :=
      "60C 61B-61C 61F 660-669 FDF2 FDFD" },
  { name := "thai",
    added :=
      "2BC 2D7 303 331" },
  { name := "tibt",
    added :=
      "3008-300B" },
  { name := "tfng",
    added :=
      "302 304 307 309" },
  { name := "tirh",
    added :=
      "951-952 964-965 1CF2 A830-A839" },
  { name := "todr",
    added :=
      "301-307/3 311 313 35E" },
  { name := "toto",
    added :=
      "2BC" },
  { name := "tutg",
    added :=
      "CE6-CEF 1CF2 1CF4 A830-A835 A8F1" },
  { name := "yezi",
    added :=
      "60C 61B 61F 660-669" },
  { name := "yi",
    added :=
      "3001-3002 3008-3011 3014-301B 30FB FF61-FF65" }]

/-- The characters used with each script, under the names of the script. -/
def all : List NamedSet :=
  Script.all.map fun s =>
    match changes.find? fun c => s.names.contains c.name with
    | some c => ⟨s.names, (s.set.except c.removed).also c.added⟩
    | none => s

end ScriptExtension

end Unicode

end DocStore
