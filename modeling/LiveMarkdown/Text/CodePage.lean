import LiveMarkdown.Text.Range

/-!
Tables of encodings in which each byte stands for one character or for none.
-/

namespace LiveMarkdown.Text

/-- An encoding of one byte for each character: the names it goes by, in the form in which names are
looked up, and the rows of its table. -/
structure CodePage where
  words : String
  rows : List String

namespace CodePage

def names (p : CodePage) : List String := p.words.splitOn " "

/-- The characters of its bytes. -/
def runs (p : CodePage) : Runs := .ofRows p.rows

/-- The character of a byte. -/
def char? (runs : Runs) (b : UInt8) : Option Char := runs.image? (Char.ofNat b.toNat)

/-- The byte of a character. -/
def byte? (runs : Runs) (c : Char) : Option UInt8 :=
  let n := c.toNat
  (runs.find? fun r => r.image ≤ n && n ≤ r.image + (r.last - r.first)).map fun r =>
    UInt8.ofNat (r.first + (n - r.image))

def all : List CodePage := [
  .mk "cp437 437 cspc8codepage437 ibm437" [
    "0-7f/1:0 80:c7 81:fc 82:e9 83:e2 84:e4 85:e0 86:e5 87:e7 88-89/1:ea 8a:e8 8b:ef 8c:ee 8d:ec",
    "8e-8f/1:c4 90:c9 91:e6 92:c6 93:f4 94:f6 95:f2 96:fb 97:f9 98:ff 99:d6 9a:dc 9b-9c/1:a2 9d:a5",
    "9e:20a7 9f:192 a0:e1 a1:ed a2:f3 a3:fa a4:f1 a5:d1 a6:aa a7:ba a8:bf a9:2310 aa:ac ab:bd ac:bc",
    "ad:a1 ae:ab af:bb b0-b2/1:2591 b3:2502 b4:2524 b5-b6/1:2561 b7:2556 b8:2555 b9:2563 ba:2551",
    "bb:2557 bc:255d bd:255c be:255b bf:2510 c0:2514 c1:2534 c2:252c c3:251c c4:2500 c5:253c",
    "c6-c7/1:255e c8:255a c9:2554 ca:2569 cb:2566 cc:2560 cd:2550 ce:256c cf-d0/1:2567 d1-d2/1:2564",
    "d3:2559 d4:2558 d5-d6/1:2552 d7:256b d8:256a d9:2518 da:250c db:2588 dc:2584 dd:258c de:2590",
    "df:2580 e0:3b1 e1:df e2:393 e3:3c0 e4:3a3 e5:3c3 e6:b5 e7:3c4 e8:3a6 e9:398 ea:3a9 eb:3b4",
    "ec:221e ed:3c6 ee:3b5 ef:2229 f0:2261 f1:b1 f2:2265 f3:2264 f4-f5/1:2320 f6:f7 f7:2248 f8:b0",
    "f9:2219 fa:b7 fb:221a fc:207f fd:b2 fe:25a0 ff:a0"],
  .mk "cp737" [
    "0-7f/1:0 80-90/1:391 91-97/1:3a3 98-a8/1:3b1 a9:3c3 aa:3c2 ab-af/1:3c4 b0-b2/1:2591 b3:2502",
    "b4:2524 b5-b6/1:2561 b7:2556 b8:2555 b9:2563 ba:2551 bb:2557 bc:255d bd:255c be:255b bf:2510",
    "c0:2514 c1:2534 c2:252c c3:251c c4:2500 c5:253c c6-c7/1:255e c8:255a c9:2554 ca:2569 cb:2566",
    "cc:2560 cd:2550 ce:256c cf-d0/1:2567 d1-d2/1:2564 d3:2559 d4:2558 d5-d6/1:2552 d7:256b d8:256a",
    "d9:2518 da:250c db:2588 dc:2584 dd:258c de:2590 df:2580 e0:3c9 e1-e3/1:3ac e4:3ca e5:3af",
    "e6-e7/1:3cc e8:3cb e9:3ce ea:386 eb-ed/1:388 ee:38c ef-f0/1:38e f1:b1 f2:2265 f3:2264",
    "f4-f5/1:3aa f6:f7 f7:2248 f8:b0 f9:2219 fa:b7 fb:221a fc:207f fd:b2 fe:25a0 ff:a0"],
  .mk "cp775 775 cspc775baltic ibm775" [
    "0-7f/1:0 80:106 81:fc 82:e9 83:101 84:e4 85:123 86:e5 87:107 88:142 89:113 8a-8b/1:156 8c:12b",
    "8d:179 8e-8f/1:c4 90:c9 91:e6 92:c6 93:14d 94:f6 95:122 96:a2 97-98/1:15a 99:d6 9a:dc 9b:f8",
    "9c:a3 9d:d8 9e:d7 9f:a4 a0:100 a1:12a a2:f3 a3-a4/1:17b a5:17a a6:201d a7:a6 a8:a9 a9:ae aa:ac",
    "ab:bd ac:bc ad:141 ae:ab af:bb b0-b2/1:2591 b3:2502 b4:2524 b5:104 b6:10c b7:118 b8:116",
    "b9:2563 ba:2551 bb:2557 bc:255d bd:12e be:160 bf:2510 c0:2514 c1:2534 c2:252c c3:251c c4:2500",
    "c5:253c c6:172 c7:16a c8:255a c9:2554 ca:2569 cb:2566 cc:2560 cd:2550 ce:256c cf:17d d0:105",
    "d1:10d d2:119 d3:117 d4:12f d5:161 d6:173 d7:16b d8:17e d9:2518 da:250c db:2588 dc:2584",
    "dd:258c de:2590 df:2580 e0:d3 e1:df e2:14c e3:143 e4:f5 e5:d5 e6:b5 e7:144 e8-e9/1:136",
    "ea-eb/1:13b ec:146 ed:112 ee:145 ef:2019 f0:ad f1:b1 f2:201c f3:be f4:b6 f5:a7 f6:f7 f7:201e",
    "f8:b0 f9:2219 fa:b7 fb:b9 fc:b3 fd:b2 fe:25a0 ff:a0"],
  .mk "cp850 850 cspc850multilingual ibm850" [
    "0-7f/1:0 80:c7 81:fc 82:e9 83:e2 84:e4 85:e0 86:e5 87:e7 88-89/1:ea 8a:e8 8b:ef 8c:ee 8d:ec",
    "8e-8f/1:c4 90:c9 91:e6 92:c6 93:f4 94:f6 95:f2 96:fb 97:f9 98:ff 99:d6 9a:dc 9b:f8 9c:a3 9d:d8",
    "9e:d7 9f:192 a0:e1 a1:ed a2:f3 a3:fa a4:f1 a5:d1 a6:aa a7:ba a8:bf a9:ae aa:ac ab:bd ac:bc",
    "ad:a1 ae:ab af:bb b0-b2/1:2591 b3:2502 b4:2524 b5-b6/1:c1 b7:c0 b8:a9 b9:2563 ba:2551 bb:2557",
    "bc:255d bd:a2 be:a5 bf:2510 c0:2514 c1:2534 c2:252c c3:251c c4:2500 c5:253c c6:e3 c7:c3",
    "c8:255a c9:2554 ca:2569 cb:2566 cc:2560 cd:2550 ce:256c cf:a4 d0:f0 d1:d0 d2-d3/1:ca d4:c8",
    "d5:131 d6-d8/1:cd d9:2518 da:250c db:2588 dc:2584 dd:a6 de:cc df:2580 e0:d3 e1:df e2:d4 e3:d2",
    "e4:f5 e5:d5 e6:b5 e7:fe e8:de e9-ea/1:da eb:d9 ec:fd ed:dd ee:af ef:b4 f0:ad f1:b1 f2:2017",
    "f3:be f4:b6 f5:a7 f6:f7 f7:b8 f8:b0 f9:a8 fa:b7 fb:b9 fc:b3 fd:b2 fe:25a0 ff:a0"],
  .mk "cp852 852 cspcp852 ibm852" [
    "0-7f/1:0 80:c7 81:fc 82:e9 83:e2 84:e4 85:16f 86:107 87:e7 88:142 89:eb 8a-8b/1:150 8c:ee",
    "8d:179 8e:c4 8f:106 90:c9 91-92/1:139 93:f4 94:f6 95-96/1:13d 97-98/1:15a 99:d6 9a:dc",
    "9b-9c/1:164 9d:141 9e:d7 9f:10d a0:e1 a1:ed a2:f3 a3:fa a4-a5/1:104 a6-a7/1:17d a8-a9/1:118",
    "aa:ac ab:17a ac:10c ad:15f ae:ab af:bb b0-b2/1:2591 b3:2502 b4:2524 b5-b6/1:c1 b7:11a b8:15e",
    "b9:2563 ba:2551 bb:2557 bc:255d bd-be/1:17b bf:2510 c0:2514 c1:2534 c2:252c c3:251c c4:2500",
    "c5:253c c6-c7/1:102 c8:255a c9:2554 ca:2569 cb:2566 cc:2560 cd:2550 ce:256c cf:a4 d0:111",
    "d1:110 d2:10e d3:cb d4:10f d5:147 d6-d7/1:cd d8:11b d9:2518 da:250c db:2588 dc:2584 dd:162",
    "de:16e df:2580 e0:d3 e1:df e2:d4 e3-e4/1:143 e5:148 e6-e7/1:160 e8:154 e9:da ea:155 eb:170",
    "ec:fd ed:dd ee:163 ef:b4 f0:ad f1:2dd f2:2db f3:2c7 f4:2d8 f5:a7 f6:f7 f7:b8 f8:b0 f9:a8",
    "fa:2d9 fb:171 fc-fd/1:158 fe:25a0 ff:a0"],
  .mk "cp855 855 csibm855 ibm855" [
    "0-7f/1:0 80:452 81:402 82:453 83:403 84:451 85:401 86:454 87:404 88:455 89:405 8a:456 8b:406",
    "8c:457 8d:407 8e:458 8f:408 90:459 91:409 92:45a 93:40a 94:45b 95:40b 96:45c 97:40c 98:45e",
    "99:40e 9a:45f 9b:40f 9c:44e 9d:42e 9e:44a 9f:42a a0:430 a1:410 a2:431 a3:411 a4:446 a5:426",
    "a6:434 a7:414 a8:435 a9:415 aa:444 ab:424 ac:433 ad:413 ae:ab af:bb b0-b2/1:2591 b3:2502",
    "b4:2524 b5:445 b6:425 b7:438 b8:418 b9:2563 ba:2551 bb:2557 bc:255d bd:439 be:419 bf:2510",
    "c0:2514 c1:2534 c2:252c c3:251c c4:2500 c5:253c c6:43a c7:41a c8:255a c9:2554 ca:2569 cb:2566",
    "cc:2560 cd:2550 ce:256c cf:a4 d0:43b d1:41b d2:43c d3:41c d4:43d d5:41d d6:43e d7:41e d8:43f",
    "d9:2518 da:250c db:2588 dc:2584 dd:41f de:44f df:2580 e0:42f e1:440 e2:420 e3:441 e4:421",
    "e5:442 e6:422 e7:443 e8:423 e9:436 ea:416 eb:432 ec:412 ed:44c ee:42c ef:2116 f0:ad f1:44b",
    "f2:42b f3:437 f4:417 f5:448 f6:428 f7:44d f8:42d f9:449 fa:429 fb:447 fc:427 fd:a7 fe:25a0",
    "ff:a0"],
  .mk "cp857 857 csibm857 ibm857" [
    "0-7f/1:0 80:c7 81:fc 82:e9 83:e2 84:e4 85:e0 86:e5 87:e7 88-89/1:ea 8a:e8 8b:ef 8c:ee 8d:131",
    "8e-8f/1:c4 90:c9 91:e6 92:c6 93:f4 94:f6 95:f2 96:fb 97:f9 98:130 99:d6 9a:dc 9b:f8 9c:a3",
    "9d:d8 9e-9f/1:15e a0:e1 a1:ed a2:f3 a3:fa a4:f1 a5:d1 a6-a7/1:11e a8:bf a9:ae aa:ac ab:bd",
    "ac:bc ad:a1 ae:ab af:bb b0-b2/1:2591 b3:2502 b4:2524 b5-b6/1:c1 b7:c0 b8:a9 b9:2563 ba:2551",
    "bb:2557 bc:255d bd:a2 be:a5 bf:2510 c0:2514 c1:2534 c2:252c c3:251c c4:2500 c5:253c c6:e3",
    "c7:c3 c8:255a c9:2554 ca:2569 cb:2566 cc:2560 cd:2550 ce:256c cf:a4 d0:ba d1:aa d2-d3/1:ca",
    "d4:c8 d6-d8/1:cd d9:2518 da:250c db:2588 dc:2584 dd:a6 de:cc df:2580 e0:d3 e1:df e2:d4 e3:d2",
    "e4:f5 e5:d5 e6:b5 e8:d7 e9-ea/1:da eb:d9 ec:ec ed:ff ee:af ef:b4 f0:ad f1:b1 f3:be f4:b6 f5:a7",
    "f6:f7 f7:b8 f8:b0 f9:a8 fa:b7 fb:b9 fc:b3 fd:b2 fe:25a0 ff:a0"],
  .mk "cp858 858 csibm858 ibm858" [
    "0-7f/1:0 80:c7 81:fc 82:e9 83:e2 84:e4 85:e0 86:e5 87:e7 88-89/1:ea 8a:e8 8b:ef 8c:ee 8d:ec",
    "8e-8f/1:c4 90:c9 91:e6 92:c6 93:f4 94:f6 95:f2 96:fb 97:f9 98:ff 99:d6 9a:dc 9b:f8 9c:a3 9d:d8",
    "9e:d7 9f:192 a0:e1 a1:ed a2:f3 a3:fa a4:f1 a5:d1 a6:aa a7:ba a8:bf a9:ae aa:ac ab:bd ac:bc",
    "ad:a1 ae:ab af:bb b0-b2/1:2591 b3:2502 b4:2524 b5-b6/1:c1 b7:c0 b8:a9 b9:2563 ba:2551 bb:2557",
    "bc:255d bd:a2 be:a5 bf:2510 c0:2514 c1:2534 c2:252c c3:251c c4:2500 c5:253c c6:e3 c7:c3",
    "c8:255a c9:2554 ca:2569 cb:2566 cc:2560 cd:2550 ce:256c cf:a4 d0:f0 d1:d0 d2-d3/1:ca d4:c8",
    "d5:20ac d6-d8/1:cd d9:2518 da:250c db:2588 dc:2584 dd:a6 de:cc df:2580 e0:d3 e1:df e2:d4 e3:d2",
    "e4:f5 e5:d5 e6:b5 e7:fe e8:de e9-ea/1:da eb:d9 ec:fd ed:dd ee:af ef:b4 f0:ad f1:b1 f2:2017",
    "f3:be f4:b6 f5:a7 f6:f7 f7:b8 f8:b0 f9:a8 fa:b7 fb:b9 fc:b3 fd:b2 fe:25a0 ff:a0"],
  .mk "cp860 860 csibm860 ibm860" [
    "0-7f/1:0 80:c7 81:fc 82:e9 83-84/1:e2 85:e0 86:c1 87:e7 88:ea 89:ca 8a:e8 8b:cd 8c:d4 8d:ec",
    "8e:c3 8f:c2 90:c9 91:c0 92:c8 93-94/1:f4 95:f2 96:da 97:f9 98:cc 99:d5 9a:dc 9b-9c/1:a2 9d:d9",
    "9e:20a7 9f:d3 a0:e1 a1:ed a2:f3 a3:fa a4:f1 a5:d1 a6:aa a7:ba a8:bf a9:d2 aa:ac ab:bd ac:bc",
    "ad:a1 ae:ab af:bb b0-b2/1:2591 b3:2502 b4:2524 b5-b6/1:2561 b7:2556 b8:2555 b9:2563 ba:2551",
    "bb:2557 bc:255d bd:255c be:255b bf:2510 c0:2514 c1:2534 c2:252c c3:251c c4:2500 c5:253c",
    "c6-c7/1:255e c8:255a c9:2554 ca:2569 cb:2566 cc:2560 cd:2550 ce:256c cf-d0/1:2567 d1-d2/1:2564",
    "d3:2559 d4:2558 d5-d6/1:2552 d7:256b d8:256a d9:2518 da:250c db:2588 dc:2584 dd:258c de:2590",
    "df:2580 e0:3b1 e1:df e2:393 e3:3c0 e4:3a3 e5:3c3 e6:b5 e7:3c4 e8:3a6 e9:398 ea:3a9 eb:3b4",
    "ec:221e ed:3c6 ee:3b5 ef:2229 f0:2261 f1:b1 f2:2265 f3:2264 f4-f5/1:2320 f6:f7 f7:2248 f8:b0",
    "f9:2219 fa:b7 fb:221a fc:207f fd:b2 fe:25a0 ff:a0"],
  .mk "cp861 861 cp_is csibm861 ibm861" [
    "0-7f/1:0 80:c7 81:fc 82:e9 83:e2 84:e4 85:e0 86:e5 87:e7 88-89/1:ea 8a:e8 8b:d0 8c:f0 8d:de",
    "8e-8f/1:c4 90:c9 91:e6 92:c6 93:f4 94:f6 95:fe 96:fb 97:dd 98:fd 99:d6 9a:dc 9b:f8 9c:a3 9d:d8",
    "9e:20a7 9f:192 a0:e1 a1:ed a2:f3 a3:fa a4:c1 a5:cd a6:d3 a7:da a8:bf a9:2310 aa:ac ab:bd ac:bc",
    "ad:a1 ae:ab af:bb b0-b2/1:2591 b3:2502 b4:2524 b5-b6/1:2561 b7:2556 b8:2555 b9:2563 ba:2551",
    "bb:2557 bc:255d bd:255c be:255b bf:2510 c0:2514 c1:2534 c2:252c c3:251c c4:2500 c5:253c",
    "c6-c7/1:255e c8:255a c9:2554 ca:2569 cb:2566 cc:2560 cd:2550 ce:256c cf-d0/1:2567 d1-d2/1:2564",
    "d3:2559 d4:2558 d5-d6/1:2552 d7:256b d8:256a d9:2518 da:250c db:2588 dc:2584 dd:258c de:2590",
    "df:2580 e0:3b1 e1:df e2:393 e3:3c0 e4:3a3 e5:3c3 e6:b5 e7:3c4 e8:3a6 e9:398 ea:3a9 eb:3b4",
    "ec:221e ed:3c6 ee:3b5 ef:2229 f0:2261 f1:b1 f2:2265 f3:2264 f4-f5/1:2320 f6:f7 f7:2248 f8:b0",
    "f9:2219 fa:b7 fb:221a fc:207f fd:b2 fe:25a0 ff:a0"],
  .mk "cp862 862 cspc862latinhebrew ibm862" [
    "0-7f/1:0 80-9a/1:5d0 9b-9c/1:a2 9d:a5 9e:20a7 9f:192 a0:e1 a1:ed a2:f3 a3:fa a4:f1 a5:d1 a6:aa",
    "a7:ba a8:bf a9:2310 aa:ac ab:bd ac:bc ad:a1 ae:ab af:bb b0-b2/1:2591 b3:2502 b4:2524",
    "b5-b6/1:2561 b7:2556 b8:2555 b9:2563 ba:2551 bb:2557 bc:255d bd:255c be:255b bf:2510 c0:2514",
    "c1:2534 c2:252c c3:251c c4:2500 c5:253c c6-c7/1:255e c8:255a c9:2554 ca:2569 cb:2566 cc:2560",
    "cd:2550 ce:256c cf-d0/1:2567 d1-d2/1:2564 d3:2559 d4:2558 d5-d6/1:2552 d7:256b d8:256a d9:2518",
    "da:250c db:2588 dc:2584 dd:258c de:2590 df:2580 e0:3b1 e1:df e2:393 e3:3c0 e4:3a3 e5:3c3 e6:b5",
    "e7:3c4 e8:3a6 e9:398 ea:3a9 eb:3b4 ec:221e ed:3c6 ee:3b5 ef:2229 f0:2261 f1:b1 f2:2265 f3:2264",
    "f4-f5/1:2320 f6:f7 f7:2248 f8:b0 f9:2219 fa:b7 fb:221a fc:207f fd:b2 fe:25a0 ff:a0"],
  .mk "cp863 863 csibm863 ibm863" [
    "0-7f/1:0 80:c7 81:fc 82:e9 83:e2 84:c2 85:e0 86:b6 87:e7 88-89/1:ea 8a:e8 8b:ef 8c:ee 8d:2017",
    "8e:c0 8f:a7 90:c9 91:c8 92:ca 93:f4 94:cb 95:cf 96:fb 97:f9 98:a4 99:d4 9a:dc 9b-9c/1:a2 9d:d9",
    "9e:db 9f:192 a0:a6 a1:b4 a2:f3 a3:fa a4:a8 a5:b8 a6:b3 a7:af a8:ce a9:2310 aa:ac ab:bd ac:bc",
    "ad:be ae:ab af:bb b0-b2/1:2591 b3:2502 b4:2524 b5-b6/1:2561 b7:2556 b8:2555 b9:2563 ba:2551",
    "bb:2557 bc:255d bd:255c be:255b bf:2510 c0:2514 c1:2534 c2:252c c3:251c c4:2500 c5:253c",
    "c6-c7/1:255e c8:255a c9:2554 ca:2569 cb:2566 cc:2560 cd:2550 ce:256c cf-d0/1:2567 d1-d2/1:2564",
    "d3:2559 d4:2558 d5-d6/1:2552 d7:256b d8:256a d9:2518 da:250c db:2588 dc:2584 dd:258c de:2590",
    "df:2580 e0:3b1 e1:df e2:393 e3:3c0 e4:3a3 e5:3c3 e6:b5 e7:3c4 e8:3a6 e9:398 ea:3a9 eb:3b4",
    "ec:221e ed:3c6 ee:3b5 ef:2229 f0:2261 f1:b1 f2:2265 f3:2264 f4-f5/1:2320 f6:f7 f7:2248 f8:b0",
    "f9:2219 fa:b7 fb:221a fc:207f fd:b2 fe:25a0 ff:a0"],
  .mk "cp864 864 csibm864 ibm864" [
    "0-24/1:0 25:66a 26-7f/1:26 80:b0 81:b7 82-83/1:2219 84:2592 85:2500 86:2502 87:253c 88:2524",
    "89:252c 8a:251c 8b:2534 8c:2510 8d:250c 8e:2514 8f:2518 90:3b2 91:221e 92:3c6 93:b1 94:bd",
    "95:bc 96:2248 97:ab 98:bb 99-9a/1:fef7 9d-9e/1:fefb a0:a0 a1:ad a2:fe82 a3-a4/1:a3 a5:fe84",
    "a8-a9/1:fe8e aa:fe95 ab:fe99 ac:60c ad:fe9d ae:fea1 af:fea5 b0-b9/1:660 ba:fed1 bb:61b bc:feb1",
    "bd:feb5 be:feb9 bf:61f c0:a2 c1-c2/1:fe80 c3:fe83 c4:fe85 c5:feca c6:fe8b c7:fe8d c8:fe91",
    "c9:fe93 ca:fe97 cb:fe9b cc:fe9f cd:fea3 ce:fea7 cf:fea9 d0:feab d1:fead d2:feaf d3:feb3",
    "d4:feb7 d5:febb d6:febf d7:fec1 d8:fec5 d9:fecb da:fecf db:a6 dc:ac dd:f7 de:d7 df:fec9 e0:640",
    "e1:fed3 e2:fed7 e3:fedb e4:fedf e5:fee3 e6:fee7 e7:feeb e8:feed e9:feef ea:fef3 eb:febd",
    "ec:fecc ed:fece ee:fecd ef:fee1 f0:fe7d f1:651 f2:fee5 f3:fee9 f4:feec f5:fef0 f6:fef2 f7:fed0",
    "f8:fed5 f9-fa/1:fef5 fb:fedd fc:fed9 fd:fef1 fe:25a0"],
  .mk "cp865 865 csibm865 ibm865" [
    "0-7f/1:0 80:c7 81:fc 82:e9 83:e2 84:e4 85:e0 86:e5 87:e7 88-89/1:ea 8a:e8 8b:ef 8c:ee 8d:ec",
    "8e-8f/1:c4 90:c9 91:e6 92:c6 93:f4 94:f6 95:f2 96:fb 97:f9 98:ff 99:d6 9a:dc 9b:f8 9c:a3 9d:d8",
    "9e:20a7 9f:192 a0:e1 a1:ed a2:f3 a3:fa a4:f1 a5:d1 a6:aa a7:ba a8:bf a9:2310 aa:ac ab:bd ac:bc",
    "ad:a1 ae:ab af:a4 b0-b2/1:2591 b3:2502 b4:2524 b5-b6/1:2561 b7:2556 b8:2555 b9:2563 ba:2551",
    "bb:2557 bc:255d bd:255c be:255b bf:2510 c0:2514 c1:2534 c2:252c c3:251c c4:2500 c5:253c",
    "c6-c7/1:255e c8:255a c9:2554 ca:2569 cb:2566 cc:2560 cd:2550 ce:256c cf-d0/1:2567 d1-d2/1:2564",
    "d3:2559 d4:2558 d5-d6/1:2552 d7:256b d8:256a d9:2518 da:250c db:2588 dc:2584 dd:258c de:2590",
    "df:2580 e0:3b1 e1:df e2:393 e3:3c0 e4:3a3 e5:3c3 e6:b5 e7:3c4 e8:3a6 e9:398 ea:3a9 eb:3b4",
    "ec:221e ed:3c6 ee:3b5 ef:2229 f0:2261 f1:b1 f2:2265 f3:2264 f4-f5/1:2320 f6:f7 f7:2248 f8:b0",
    "f9:2219 fa:b7 fb:221a fc:207f fd:b2 fe:25a0 ff:a0"],
  .mk "cp866 866 csibm866 ibm866" [
    "0-7f/1:0 80-af/1:410 b0-b2/1:2591 b3:2502 b4:2524 b5-b6/1:2561 b7:2556 b8:2555 b9:2563 ba:2551",
    "bb:2557 bc:255d bd:255c be:255b bf:2510 c0:2514 c1:2534 c2:252c c3:251c c4:2500 c5:253c",
    "c6-c7/1:255e c8:255a c9:2554 ca:2569 cb:2566 cc:2560 cd:2550 ce:256c cf-d0/1:2567 d1-d2/1:2564",
    "d3:2559 d4:2558 d5-d6/1:2552 d7:256b d8:256a d9:2518 da:250c db:2588 dc:2584 dd:258c de:2590",
    "df:2580 e0-ef/1:440 f0:401 f1:451 f2:404 f3:454 f4:407 f5:457 f6:40e f7:45e f8:b0 f9:2219",
    "fa:b7 fb:221a fc:2116 fd:a4 fe:25a0 ff:a0"],
  .mk "cp869 869 cp_gr csibm869 ibm869" [
    "0-7f/1:0 86:386 88:b7 89:ac 8a:a6 8b-8c/1:2018 8d:388 8e:2015 8f-90/1:389 91:3aa 92:38c 95:38e",
    "96:3ab 97:a9 98:38f 99-9a/1:b2 9b:3ac 9c:a3 9d-9f/1:3ad a0:3ca a1:390 a2-a3/1:3cc a4-aa/1:391",
    "ab:bd ac-ad/1:398 ae:ab af:bb b0-b2/1:2591 b3:2502 b4:2524 b5-b8/1:39a b9:2563 ba:2551 bb:2557",
    "bc:255d bd-be/1:39e bf:2510 c0:2514 c1:2534 c2:252c c3:251c c4:2500 c5:253c c6-c7/1:3a0",
    "c8:255a c9:2554 ca:2569 cb:2566 cc:2560 cd:2550 ce:256c cf-d5/1:3a3 d6-d8/1:3b1 d9:2518",
    "da:250c db:2588 dc:2584 dd-de/1:3b4 df:2580 e0-eb/1:3b6 ec:3c3 ed:3c2 ee:3c4 ef:384 f0:ad",
    "f1:b1 f2-f4/1:3c5 f5:a7 f6:3c8 f7:385 f8:b0 f9:a8 fa:3c9 fb:3cb fc:3b0 fd:3ce fe:25a0 ff:a0"],
  .mk "cp874" [
    "0-7f/1:0 80:20ac 85:2026 91-92/1:2018 93-94/1:201c 95:2022 96-97/1:2013 a0:a0 a1-da/1:e01",
    "df-fb/1:e3f"],
  .mk "cp1250 1250 windows_1250" [
    "0-7f/1:0 80:20ac 82:201a 84:201e 85:2026 86-87/1:2020 89:2030 8a:160 8b:2039 8c:15a 8d:164",
    "8e:17d 8f:179 91-92/1:2018 93-94/1:201c 95:2022 96-97/1:2013 99:2122 9a:161 9b:203a 9c:15b",
    "9d:165 9e:17e 9f:17a a0:a0 a1:2c7 a2:2d8 a3:141 a4:a4 a5:104 a6-a9/1:a6 aa:15e ab-ae/1:ab",
    "af:17b b0-b1/1:b0 b2:2db b3:142 b4-b8/1:b4 b9:105 ba:15f bb:bb bc:13d bd:2dd be:13e bf:17c",
    "c0:154 c1-c2/1:c1 c3:102 c4:c4 c5:139 c6:106 c7:c7 c8:10c c9:c9 ca:118 cb:cb cc:11a cd-ce/1:cd",
    "cf:10e d0:110 d1:143 d2:147 d3-d4/1:d3 d5:150 d6-d7/1:d6 d8:158 d9:16e da:da db:170 dc-dd/1:dc",
    "de:162 df:df e0:155 e1-e2/1:e1 e3:103 e4:e4 e5:13a e6:107 e7:e7 e8:10d e9:e9 ea:119 eb:eb",
    "ec:11b ed-ee/1:ed ef:10f f0:111 f1:144 f2:148 f3-f4/1:f3 f5:151 f6-f7/1:f6 f8:159 f9:16f fa:fa",
    "fb:171 fc-fd/1:fc fe:163 ff:2d9"],
  .mk "cp1251 1251 windows_1251" [
    "0-7f/1:0 80-81/1:402 82:201a 83:453 84:201e 85:2026 86-87/1:2020 88:20ac 89:2030 8a:409",
    "8b:2039 8c:40a 8d:40c 8e:40b 8f:40f 90:452 91-92/1:2018 93-94/1:201c 95:2022 96-97/1:2013",
    "99:2122 9a:459 9b:203a 9c:45a 9d:45c 9e:45b 9f:45f a0:a0 a1:40e a2:45e a3:408 a4:a4 a5:490",
    "a6-a7/1:a6 a8:401 a9:a9 aa:404 ab-ae/1:ab af:407 b0-b1/1:b0 b2:406 b3:456 b4:491 b5-b7/1:b5",
    "b8:451 b9:2116 ba:454 bb:bb bc:458 bd:405 be:455 bf:457 c0-ff/1:410"],
  .mk "cp1252 1252 windows_1252" [
    "0-7f/1:0 80:20ac 82:201a 83:192 84:201e 85:2026 86-87/1:2020 88:2c6 89:2030 8a:160 8b:2039",
    "8c:152 8e:17d 91-92/1:2018 93-94/1:201c 95:2022 96-97/1:2013 98:2dc 99:2122 9a:161 9b:203a",
    "9c:153 9e:17e 9f:178 a0-ff/1:a0"],
  .mk "cp1253 1253 windows_1253" [
    "0-7f/1:0 80:20ac 82:201a 83:192 84:201e 85:2026 86-87/1:2020 89:2030 8b:2039 91-92/1:2018",
    "93-94/1:201c 95:2022 96-97/1:2013 99:2122 9b:203a a0:a0 a1-a2/1:385 a3-a9/1:a3 ab-ae/1:ab",
    "af:2015 b0-b3/1:b0 b4:384 b5-b7/1:b5 b8-ba/1:388 bb:bb bc:38c bd:bd be-d1/1:38e d3-fe/1:3a3"],
  .mk "cp1254 1254 windows_1254" [
    "0-7f/1:0 80:20ac 82:201a 83:192 84:201e 85:2026 86-87/1:2020 88:2c6 89:2030 8a:160 8b:2039",
    "8c:152 91-92/1:2018 93-94/1:201c 95:2022 96-97/1:2013 98:2dc 99:2122 9a:161 9b:203a 9c:153",
    "9f:178 a0-cf/1:a0 d0:11e d1-dc/1:d1 dd:130 de:15e df-ef/1:df f0:11f f1-fc/1:f1 fd:131 fe:15f",
    "ff:ff"],
  .mk "cp1255 1255 windows_1255" [
    "0-7f/1:0 80:20ac 82:201a 83:192 84:201e 85:2026 86-87/1:2020 88:2c6 89:2030 8b:2039",
    "91-92/1:2018 93-94/1:201c 95:2022 96-97/1:2013 98:2dc 99:2122 9b:203a a0-a3/1:a0 a4:20aa",
    "a5-a9/1:a5 aa:d7 ab-b9/1:ab ba:f7 bb-bf/1:bb c0-c9/1:5b0 cb-d3/1:5bb d4-d8/1:5f0 e0-fa/1:5d0",
    "fd-fe/1:200e"],
  .mk "cp1256 1256 windows_1256" [
    "0-7f/1:0 80:20ac 81:67e 82:201a 83:192 84:201e 85:2026 86-87/1:2020 88:2c6 89:2030 8a:679",
    "8b:2039 8c:152 8d:686 8e:698 8f:688 90:6af 91-92/1:2018 93-94/1:201c 95:2022 96-97/1:2013",
    "98:6a9 99:2122 9a:691 9b:203a 9c:153 9d-9e/1:200c 9f:6ba a0:a0 a1:60c a2-a9/1:a2 aa:6be",
    "ab-b9/1:ab ba:61b bb-be/1:bb bf:61f c0:6c1 c1-d6/1:621 d7:d7 d8-db/1:637 dc-df/1:640 e0:e0",
    "e1:644 e2:e2 e3-e6/1:645 e7-eb/1:e7 ec-ed/1:649 ee-ef/1:ee f0-f3/1:64b f4:f4 f5-f6/1:64f f7:f7",
    "f8:651 f9:f9 fa:652 fb-fc/1:fb fd-fe/1:200e ff:6d2"],
  .mk "cp1257 1257 windows_1257" [
    "0-7f/1:0 80:20ac 82:201a 84:201e 85:2026 86-87/1:2020 89:2030 8b:2039 8d:a8 8e:2c7 8f:b8",
    "91-92/1:2018 93-94/1:201c 95:2022 96-97/1:2013 99:2122 9b:203a 9d:af 9e:2db a0:a0 a2-a4/1:a2",
    "a6-a7/1:a6 a8:d8 a9:a9 aa:156 ab-ae/1:ab af:c6 b0-b7/1:b0 b8:f8 b9:b9 ba:157 bb-be/1:bb bf:e6",
    "c0:104 c1:12e c2:100 c3:106 c4-c5/1:c4 c6:118 c7:112 c8:10c c9:c9 ca:179 cb:116 cc:122 cd:136",
    "ce:12a cf:13b d0:160 d1:143 d2:145 d3:d3 d4:14c d5-d7/1:d5 d8:172 d9:141 da:15a db:16a dc:dc",
    "dd:17b de:17d df:df e0:105 e1:12f e2:101 e3:107 e4-e5/1:e4 e6:119 e7:113 e8:10d e9:e9 ea:17a",
    "eb:117 ec:123 ed:137 ee:12b ef:13c f0:161 f1:144 f2:146 f3:f3 f4:14d f5-f7/1:f5 f8:173 f9:142",
    "fa:15b fb:16b fc:fc fd:17c fe:17e ff:2d9"],
  .mk "cp1258 1258 windows_1258" [
    "0-7f/1:0 80:20ac 82:201a 83:192 84:201e 85:2026 86-87/1:2020 88:2c6 89:2030 8b:2039 8c:152",
    "91-92/1:2018 93-94/1:201c 95:2022 96-97/1:2013 98:2dc 99:2122 9b:203a 9c:153 9f:178 a0-c2/1:a0",
    "c3:102 c4-cb/1:c4 cc:300 cd-cf/1:cd d0:110 d1:d1 d2:309 d3-d4/1:d3 d5:1a0 d6-dc/1:d6 dd:1af",
    "de:303 df-e2/1:df e3:103 e4-eb/1:e4 ec:301 ed-ef/1:ed f0:111 f1:f1 f2:323 f3-f4/1:f3 f5:1a1",
    "f6-fc/1:f6 fd:1b0 fe:20ab ff:ff"],
  .mk "iso8859_2 csisolatin2 iso_8859_2 iso_8859_2_1987 iso_ir_101 l2 latin2" [
    "0-7f/1:0 80-a0/1:80 a1:104 a2:2d8 a3:141 a4:a4 a5:13d a6:15a a7-a8/1:a7 a9:160 aa:15e ab:164",
    "ac:179 ad:ad ae:17d af:17b b0:b0 b1:105 b2:2db b3:142 b4:b4 b5:13e b6:15b b7:2c7 b8:b8 b9:161",
    "ba:15f bb:165 bc:17a bd:2dd be:17e bf:17c c0:154 c1-c2/1:c1 c3:102 c4:c4 c5:139 c6:106 c7:c7",
    "c8:10c c9:c9 ca:118 cb:cb cc:11a cd-ce/1:cd cf:10e d0:110 d1:143 d2:147 d3-d4/1:d3 d5:150",
    "d6-d7/1:d6 d8:158 d9:16e da:da db:170 dc-dd/1:dc de:162 df:df e0:155 e1-e2/1:e1 e3:103 e4:e4",
    "e5:13a e6:107 e7:e7 e8:10d e9:e9 ea:119 eb:eb ec:11b ed-ee/1:ed ef:10f f0:111 f1:144 f2:148",
    "f3-f4/1:f3 f5:151 f6-f7/1:f6 f8:159 f9:16f fa:fa fb:171 fc-fd/1:fc fe:163 ff:2d9"],
  .mk "iso8859_3 csisolatin3 iso_8859_3 iso_8859_3_1988 iso_ir_109 l3 latin3" [
    "0-7f/1:0 80-a0/1:80 a1:126 a2:2d8 a3-a4/1:a3 a6:124 a7-a8/1:a7 a9:130 aa:15e ab:11e ac:134",
    "ad:ad af:17b b0:b0 b1:127 b2-b5/1:b2 b6:125 b7-b8/1:b7 b9:131 ba:15f bb:11f bc:135 bd:bd",
    "bf:17c c0-c2/1:c0 c4:c4 c5:10a c6:108 c7-cf/1:c7 d1-d4/1:d1 d5:120 d6-d7/1:d6 d8:11c",
    "d9-dc/1:d9 dd:16c de:15c df-e2/1:df e4:e4 e5:10b e6:109 e7-ef/1:e7 f1-f4/1:f1 f5:121",
    "f6-f7/1:f6 f8:11d f9-fc/1:f9 fd:16d fe:15d ff:2d9"],
  .mk "iso8859_4 csisolatin4 iso_8859_4 iso_8859_4_1988 iso_ir_110 l4 latin4" [
    "0-7f/1:0 80-a0/1:80 a1:104 a2:138 a3:156 a4:a4 a5:128 a6:13b a7-a8/1:a7 a9:160 aa:112 ab:122",
    "ac:166 ad:ad ae:17d af-b0/1:af b1:105 b2:2db b3:157 b4:b4 b5:129 b6:13c b7:2c7 b8:b8 b9:161",
    "ba:113 bb:123 bc:167 bd:14a be:17e bf:14b c0:100 c1-c6/1:c1 c7:12e c8:10c c9:c9 ca:118 cb:cb",
    "cc:116 cd-ce/1:cd cf:12a d0:110 d1:145 d2:14c d3:136 d4-d8/1:d4 d9:172 da-dc/1:da dd:168",
    "de:16a df:df e0:101 e1-e6/1:e1 e7:12f e8:10d e9:e9 ea:119 eb:eb ec:117 ed-ee/1:ed ef:12b",
    "f0:111 f1:146 f2:14d f3:137 f4-f8/1:f4 f9:173 fa-fc/1:fa fd:169 fe:16b ff:2d9"],
  .mk "iso8859_5 csisolatincyrillic cyrillic iso_8859_5 iso_8859_5_1988 iso_ir_144" [
    "0-7f/1:0 80-a0/1:80 a1-ac/1:401 ad:ad ae-ef/1:40e f0:2116 f1-fc/1:451 fd:a7 fe-ff/1:45e"],
  .mk "iso8859_6 arabic asmo_708 csisolatinarabic ecma_114 iso_8859_6 iso_8859_6_1987 iso_ir_127" [
    "0-7f/1:0 80-a0/1:80 a4:a4 ac:60c ad:ad bb:61b bf:61f c1-da/1:621 e0-f2/1:640"],
  .mk ("iso8859_7 csisolatingreek ecma_118 elot_928 greek greek8 iso_8859_7 iso_8859_7_1987 " ++
    "iso_ir_126") [
    "0-7f/1:0 80-a0/1:80 a1-a2/1:2018 a3:a3 a4:20ac a5:20af a6-a9/1:a6 aa:37a ab-ad/1:ab af:2015",
    "b0-b3/1:b0 b4-b6/1:384 b7:b7 b8-ba/1:388 bb:bb bc:38c bd:bd be-d1/1:38e d3-fe/1:3a3"],
  .mk "iso8859_8 csisolatinhebrew hebrew iso_8859_8 iso_8859_8_1988 iso_ir_138" [
    "0-7f/1:0 80-a0/1:80 a2-a9/1:a2 aa:d7 ab-b9/1:ab ba:f7 bb-be/1:bb df:2017 e0-fa/1:5d0",
    "fd-fe/1:200e"],
  .mk "iso8859_9 csisolatin5 iso_8859_9 iso_8859_9_1989 iso_ir_148 l5 latin5" [
    "0-7f/1:0 80-cf/1:80 d0:11e d1-dc/1:d1 dd:130 de:15e df-ef/1:df f0:11f f1-fc/1:f1 fd:131 fe:15f",
    "ff:ff"],
  .mk "iso8859_10 csisolatin6 iso_8859_10 iso_8859_10_1992 iso_ir_157 l6 latin6" [
    "0-7f/1:0 80-a0/1:80 a1:104 a2:112 a3:122 a4:12a a5:128 a6:136 a7:a7 a8:13b a9:110 aa:160",
    "ab:166 ac:17d ad:ad ae:16a af:14a b0:b0 b1:105 b2:113 b3:123 b4:12b b5:129 b6:137 b7:b7 b8:13c",
    "b9:111 ba:161 bb:167 bc:17e bd:2015 be:16b bf:14b c0:100 c1-c6/1:c1 c7:12e c8:10c c9:c9 ca:118",
    "cb:cb cc:116 cd-d0/1:cd d1:145 d2:14c d3-d6/1:d3 d7:168 d8:d8 d9:172 da-df/1:da e0:101",
    "e1-e6/1:e1 e7:12f e8:10d e9:e9 ea:119 eb:eb ec:117 ed-f0/1:ed f1:146 f2:14d f3-f6/1:f3 f7:169",
    "f8:f8 f9:173 fa-fe/1:fa ff:138"],
  .mk "iso8859_11 iso_8859_11 iso_8859_11_2001 thai" [
    "0-7f/1:0 80-a0/1:80 a1-da/1:e01 df-fb/1:e3f"],
  .mk "iso8859_13 iso_8859_13 l7 latin7" [
    "0-7f/1:0 80-a0/1:80 a1:201d a2-a4/1:a2 a5:201e a6-a7/1:a6 a8:d8 a9:a9 aa:156 ab-ae/1:ab af:c6",
    "b0-b3/1:b0 b4:201c b5-b7/1:b5 b8:f8 b9:b9 ba:157 bb-be/1:bb bf:e6 c0:104 c1:12e c2:100 c3:106",
    "c4-c5/1:c4 c6:118 c7:112 c8:10c c9:c9 ca:179 cb:116 cc:122 cd:136 ce:12a cf:13b d0:160 d1:143",
    "d2:145 d3:d3 d4:14c d5-d7/1:d5 d8:172 d9:141 da:15a db:16a dc:dc dd:17b de:17d df:df e0:105",
    "e1:12f e2:101 e3:107 e4-e5/1:e4 e6:119 e7:113 e8:10d e9:e9 ea:17a eb:117 ec:123 ed:137 ee:12b",
    "ef:13c f0:161 f1:144 f2:146 f3:f3 f4:14d f5-f7/1:f5 f8:173 f9:142 fa:15b fb:16b fc:fc fd:17c",
    "fe:17e ff:2019"],
  .mk "iso8859_14 iso_8859_14 iso_8859_14_1998 iso_celtic iso_ir_199 l8 latin8" [
    "0-7f/1:0 80-a0/1:80 a1-a2/1:1e02 a3:a3 a4-a5/1:10a a6:1e0a a7:a7 a8:1e80 a9:a9 aa:1e82 ab:1e0b",
    "ac:1ef2 ad-ae/1:ad af:178 b0-b1/1:1e1e b2-b3/1:120 b4-b5/1:1e40 b6:b6 b7:1e56 b8:1e81 b9:1e57",
    "ba:1e83 bb:1e60 bc:1ef3 bd-be/1:1e84 bf:1e61 c0-cf/1:c0 d0:174 d1-d6/1:d1 d7:1e6a d8-dd/1:d8",
    "de:176 df-ef/1:df f0:175 f1-f6/1:f1 f7:1e6b f8-fd/1:f8 fe:177 ff:ff"],
  .mk "iso8859_15 iso_8859_15 l9 latin9" [
    "0-7f/1:0 80-a3/1:80 a4:20ac a5:a5 a6:160 a7:a7 a8:161 a9-b3/1:a9 b4:17d b5-b7/1:b5 b8:17e",
    "b9-bb/1:b9 bc-bd/1:152 be:178 bf-ff/1:bf"],
  .mk "iso8859_16 iso_8859_16 iso_8859_16_2001 iso_ir_226 l10 latin10" [
    "0-7f/1:0 80-a0/1:80 a1-a2/1:104 a3:141 a4:20ac a5:201e a6:160 a7:a7 a8:161 a9:a9 aa:218 ab:ab",
    "ac:179 ad:ad ae-af/1:17a b0-b1/1:b0 b2:10c b3:142 b4:17d b5:201d b6-b7/1:b6 b8:17e b9:10d",
    "ba:219 bb:bb bc-bd/1:152 be:178 bf:17c c0-c2/1:c0 c3:102 c4:c4 c5:106 c6-cf/1:c6 d0:110 d1:143",
    "d2-d4/1:d2 d5:150 d6:d6 d7:15a d8:170 d9-dc/1:d9 dd:118 de:21a df-e2/1:df e3:103 e4:e4 e5:107",
    "e6-ef/1:e6 f0:111 f1:144 f2-f4/1:f2 f5:151 f6:f6 f7:15b f8:171 f9-fc/1:f9 fd:119 fe:21b ff:ff"],
  .mk "koi8_r cskoi8r" [
    "0-7f/1:0 80:2500 81:2502 82:250c 83:2510 84:2514 85:2518 86:251c 87:2524 88:252c 89:2534",
    "8a:253c 8b:2580 8c:2584 8d:2588 8e:258c 8f-92/1:2590 93:2320 94:25a0 95-96/1:2219 97:2248",
    "98-99/1:2264 9a:a0 9b:2321 9c:b0 9d:b2 9e:b7 9f:f7 a0-a2/1:2550 a3:451 a4-b2/1:2553 b3:401",
    "b4-be/1:2562 bf:a9 c0:44e c1-c2/1:430 c3:446 c4-c5/1:434 c6:444 c7:433 c8:445 c9-d0/1:438",
    "d1:44f d2-d5/1:440 d6:436 d7:432 d8:44c d9:44b da:437 db:448 dc:44d dd:449 de:447 df:44a",
    "e0:42e e1-e2/1:410 e3:426 e4-e5/1:414 e6:424 e7:413 e8:425 e9-f0/1:418 f1:42f f2-f5/1:420",
    "f6:416 f7:412 f8:42c f9:42b fa:417 fb:428 fc:42d fd:429 fe:427 ff:42a"],
  .mk "koi8_u" [
    "0-7f/1:0 80:2500 81:2502 82:250c 83:2510 84:2514 85:2518 86:251c 87:2524 88:252c 89:2534",
    "8a:253c 8b:2580 8c:2584 8d:2588 8e:258c 8f-92/1:2590 93:2320 94:25a0 95-96/1:2219 97:2248",
    "98-99/1:2264 9a:a0 9b:2321 9c:b0 9d:b2 9e:b7 9f:f7 a0-a2/1:2550 a3:451 a4:454 a5:2554",
    "a6-a7/1:456 a8-ac/1:2557 ad:491 ae-b2/1:255d b3:401 b4:404 b5:2563 b6-b7/1:406 b8-bc/1:2566",
    "bd:490 be:256c bf:a9 c0:44e c1-c2/1:430 c3:446 c4-c5/1:434 c6:444 c7:433 c8:445 c9-d0/1:438",
    "d1:44f d2-d5/1:440 d6:436 d7:432 d8:44c d9:44b da:437 db:448 dc:44d dd:449 de:447 df:44a",
    "e0:42e e1-e2/1:410 e3:426 e4-e5/1:414 e6:424 e7:413 e8:425 e9-f0/1:418 f1:42f f2-f5/1:420",
    "f6:416 f7:412 f8:42c f9:42b fa:417 fb:428 fc:42d fd:429 fe:427 ff:42a"],
  .mk "mac_roman macintosh macroman" [
    "0-7f/1:0 80-81/1:c4 82:c7 83:c9 84:d1 85:d6 86:dc 87:e1 88:e0 89:e2 8a:e4 8b:e3 8c:e5 8d:e7",
    "8e:e9 8f:e8 90-91/1:ea 92:ed 93:ec 94-95/1:ee 96:f1 97:f3 98:f2 99:f4 9a:f6 9b:f5 9c:fa 9d:f9",
    "9e-9f/1:fb a0:2020 a1:b0 a2-a3/1:a2 a4:a7 a5:2022 a6:b6 a7:df a8:ae a9:a9 aa:2122 ab:b4 ac:a8",
    "ad:2260 ae:c6 af:d8 b0:221e b1:b1 b2-b3/1:2264 b4:a5 b5:b5 b6:2202 b7:2211 b8:220f b9:3c0",
    "ba:222b bb:aa bc:ba bd:3a9 be:e6 bf:f8 c0:bf c1:a1 c2:ac c3:221a c4:192 c5:2248 c6:2206 c7:ab",
    "c8:bb c9:2026 ca:a0 cb:c0 cc:c3 cd:d5 ce-cf/1:152 d0-d1/1:2013 d2-d3/1:201c d4-d5/1:2018 d6:f7",
    "d7:25ca d8:ff d9:178 da:2044 db:20ac dc-dd/1:2039 de-df/1:fb01 e0:2021 e1:b7 e2:201a e3:201e",
    "e4:2030 e5:c2 e6:ca e7:c1 e8:cb e9:c8 ea-ec/1:cd ed:cc ee-ef/1:d3 f0:f8ff f1:d2 f2-f3/1:da",
    "f4:d9 f5:131 f6:2c6 f7:2dc f8:af f9-fb/1:2d8 fc:b8 fd:2dd fe:2db ff:2c7"],
  .mk "mac_greek macgreek" [
    "0-7f/1:0 80:c4 81:b9 82:b2 83:c9 84:b3 85:d6 86:dc 87:385 88:e0 89:e2 8a:e4 8b:384 8c:a8 8d:e7",
    "8e:e9 8f:e8 90-91/1:ea 92:a3 93:2122 94-95/1:ee 96:2022 97:bd 98:2030 99:f4 9a:f6 9b:a6",
    "9c:20ac 9d:f9 9e-9f/1:fb a0:2020 a1-a2/1:393 a3:398 a4:39b a5:39e a6:3a0 a7:df a8:ae a9:a9",
    "aa:3a3 ab:3aa ac:a7 ad:2260 ae:b0 af:b7 b0:391 b1:b1 b2-b3/1:2264 b4:a5 b5:392 b6-b8/1:395",
    "b9-ba/1:399 bb:39c bc:3a6 bd:3ab be-bf/1:3a8 c0:3ac c1:39d c2:ac c3:39f c4:3a1 c5:2248 c6:3a4",
    "c7:ab c8:bb c9:2026 ca:a0 cb:3a5 cc:3a7 cd:386 ce:388 cf:153 d0:2013 d1:2015 d2-d3/1:201c",
    "d4-d5/1:2018 d6:f7 d7-d8/1:389 d9:38c da:38e db-dd/1:3ad de:3cc df:38f e0:3cd e1-e2/1:3b1",
    "e3:3c8 e4-e5/1:3b4 e6:3c6 e7:3b3 e8:3b7 e9:3b9 ea:3be eb-ee/1:3ba ef-f0/1:3bf f1:3ce f2:3c1",
    "f3-f4/1:3c3 f5:3b8 f6:3c9 f7:3c2 f8:3c7 f9:3c5 fa:3b6 fb-fc/1:3ca fd:390 fe:3b0 ff:ad"],
  .mk "mac_cyrillic maccyrillic" [
    "0-7f/1:0 80-9f/1:410 a0:2020 a1:b0 a2:490 a3:a3 a4:a7 a5:2022 a6:b6 a7:406 a8:ae a9:a9 aa:2122",
    "ab:402 ac:452 ad:2260 ae:403 af:453 b0:221e b1:b1 b2-b3/1:2264 b4:456 b5:b5 b6:491 b7:408",
    "b8:404 b9:454 ba:407 bb:457 bc:409 bd:459 be:40a bf:45a c0:458 c1:405 c2:ac c3:221a c4:192",
    "c5:2248 c6:2206 c7:ab c8:bb c9:2026 ca:a0 cb:40b cc:45b cd:40c ce:45c cf:455 d0-d1/1:2013",
    "d2-d3/1:201c d4-d5/1:2018 d6:f7 d7:201e d8:40e d9:45e da:40f db:45f dc:2116 dd:401 de:451",
    "df:44f e0-fe/1:430 ff:20ac"],
  .mk "mac_latin2 mac_centeuro maccentraleurope maclatin2" [
    "0-7f/1:0 80:c4 81-82/1:100 83:c9 84:104 85:d6 86:dc 87:e1 88:105 89:10c 8a:e4 8b:10d",
    "8c-8d/1:106 8e:e9 8f-90/1:179 91:10e 92:ed 93:10f 94-95/1:112 96:116 97:f3 98:117 99:f4 9a:f6",
    "9b:f5 9c:fa 9d-9e/1:11a 9f:fc a0:2020 a1:b0 a2:118 a3:a3 a4:a7 a5:2022 a6:b6 a7:df a8:ae a9:a9",
    "aa:2122 ab:119 ac:a8 ad:2260 ae:123 af-b0/1:12e b1:12a b2-b3/1:2264 b4:12b b5:136 b6:2202",
    "b7:2211 b8:142 b9-bc/1:13b bd-be/1:139 bf-c0/1:145 c1:143 c2:ac c3:221a c4:144 c5:147 c6:2206",
    "c7:ab c8:bb c9:2026 ca:a0 cb:148 cc:150 cd:d5 ce:151 cf:14c d0-d1/1:2013 d2-d3/1:201c",
    "d4-d5/1:2018 d6:f7 d7:25ca d8:14d d9-da/1:154 db:158 dc-dd/1:2039 de:159 df-e0/1:156 e1:160",
    "e2:201a e3:201e e4:161 e5-e6/1:15a e7:c1 e8-e9/1:164 ea:cd eb-ec/1:17d ed:16a ee-ef/1:d3",
    "f0:16b f1:16e f2:da f3-f7/1:16f f8:dd f9:fd fa:137 fb:17b fc:141 fd:17c fe:122 ff:2c7"],
  .mk "cp037 037 csibm037 ebcdic_cp_ca ebcdic_cp_nl ebcdic_cp_us ebcdic_cp_wt ibm037 ibm039" [
    "0-3/1:0 4:9c 5:9 6:86 7:7f 8:97 9-a/1:8d b-13/1:b 14:9d 15:85 16:8 17:87 18-19/1:18 1a:92",
    "1b:8f 1c-1f/1:1c 20-24/1:80 25:a 26:17 27:1b 28-2c/1:88 2d-2f/1:5 30-31/1:90 32:16 33-36/1:93",
    "37:4 38-3b/1:98 3c-3d/1:14 3e:9e 3f:1a 40:20 41:a0 42:e2 43:e4 44-45/1:e0 46:e3 47:e5 48:e7",
    "49:f1 4a:a2 4b:2e 4c:3c 4d:28 4e:2b 4f:7c 50:26 51-53/1:e9 54:e8 55-57/1:ed 58:ec 59:df 5a:21",
    "5b:24 5c:2a 5d:29 5e:3b 5f:ac 60:2d 61:2f 62:c2 63:c4 64-65/1:c0 66:c3 67:c5 68:c7 69:d1 6a:a6",
    "6b:2c 6c:25 6d:5f 6e-6f/1:3e 70:f8 71-73/1:c9 74:c8 75-77/1:cd 78:cc 79:60 7a:3a 7b:23 7c:40",
    "7d:27 7e:3d 7f:22 80:d8 81-89/1:61 8a:ab 8b:bb 8c:f0 8d-8e/1:fd 8f:b1 90:b0 91-99/1:6a 9a:aa",
    "9b:ba 9c:e6 9d:b8 9e:c6 9f:a4 a0:b5 a1:7e a2-a9/1:73 aa:a1 ab:bf ac:d0 ad-ae/1:dd af:ae b0:5e",
    "b1:a3 b2:a5 b3:b7 b4:a9 b5:a7 b6:b6 b7-b9/1:bc ba:5b bb:5d bc:af bd:a8 be:b4 bf:d7 c0:7b",
    "c1-c9/1:41 ca:ad cb:f4 cc:f6 cd-ce/1:f2 cf:f5 d0:7d d1-d9/1:4a da:b9 db-dc/1:fb dd-de/1:f9",
    "df:ff e0:5c e1:f7 e2-e9/1:53 ea:b2 eb:d4 ec:d6 ed-ee/1:d2 ef:d5 f0-f9/1:30 fa:b3 fb-fc/1:db",
    "fd-fe/1:d9 ff:9f"],
  .mk "cp500 500 csibm500 ebcdic_cp_be ebcdic_cp_ch ibm500" [
    "0-3/1:0 4:9c 5:9 6:86 7:7f 8:97 9-a/1:8d b-13/1:b 14:9d 15:85 16:8 17:87 18-19/1:18 1a:92",
    "1b:8f 1c-1f/1:1c 20-24/1:80 25:a 26:17 27:1b 28-2c/1:88 2d-2f/1:5 30-31/1:90 32:16 33-36/1:93",
    "37:4 38-3b/1:98 3c-3d/1:14 3e:9e 3f:1a 40:20 41:a0 42:e2 43:e4 44-45/1:e0 46:e3 47:e5 48:e7",
    "49:f1 4a:5b 4b:2e 4c:3c 4d:28 4e:2b 4f:21 50:26 51-53/1:e9 54:e8 55-57/1:ed 58:ec 59:df 5a:5d",
    "5b:24 5c:2a 5d:29 5e:3b 5f:5e 60:2d 61:2f 62:c2 63:c4 64-65/1:c0 66:c3 67:c5 68:c7 69:d1 6a:a6",
    "6b:2c 6c:25 6d:5f 6e-6f/1:3e 70:f8 71-73/1:c9 74:c8 75-77/1:cd 78:cc 79:60 7a:3a 7b:23 7c:40",
    "7d:27 7e:3d 7f:22 80:d8 81-89/1:61 8a:ab 8b:bb 8c:f0 8d-8e/1:fd 8f:b1 90:b0 91-99/1:6a 9a:aa",
    "9b:ba 9c:e6 9d:b8 9e:c6 9f:a4 a0:b5 a1:7e a2-a9/1:73 aa:a1 ab:bf ac:d0 ad-ae/1:dd af:ae",
    "b0-b1/1:a2 b2:a5 b3:b7 b4:a9 b5:a7 b6:b6 b7-b9/1:bc ba:ac bb:7c bc:af bd:a8 be:b4 bf:d7 c0:7b",
    "c1-c9/1:41 ca:ad cb:f4 cc:f6 cd-ce/1:f2 cf:f5 d0:7d d1-d9/1:4a da:b9 db-dc/1:fb dd-de/1:f9",
    "df:ff e0:5c e1:f7 e2-e9/1:53 ea:b2 eb:d4 ec:d6 ed-ee/1:d2 ef:d5 f0-f9/1:30 fa:b3 fb-fc/1:db",
    "fd-fe/1:d9 ff:9f"],
  .mk "cp1140 1140 ibm1140" [
    "0-3/1:0 4:9c 5:9 6:86 7:7f 8:97 9-a/1:8d b-13/1:b 14:9d 15:85 16:8 17:87 18-19/1:18 1a:92",
    "1b:8f 1c-1f/1:1c 20-24/1:80 25:a 26:17 27:1b 28-2c/1:88 2d-2f/1:5 30-31/1:90 32:16 33-36/1:93",
    "37:4 38-3b/1:98 3c-3d/1:14 3e:9e 3f:1a 40:20 41:a0 42:e2 43:e4 44-45/1:e0 46:e3 47:e5 48:e7",
    "49:f1 4a:a2 4b:2e 4c:3c 4d:28 4e:2b 4f:7c 50:26 51-53/1:e9 54:e8 55-57/1:ed 58:ec 59:df 5a:21",
    "5b:24 5c:2a 5d:29 5e:3b 5f:ac 60:2d 61:2f 62:c2 63:c4 64-65/1:c0 66:c3 67:c5 68:c7 69:d1 6a:a6",
    "6b:2c 6c:25 6d:5f 6e-6f/1:3e 70:f8 71-73/1:c9 74:c8 75-77/1:cd 78:cc 79:60 7a:3a 7b:23 7c:40",
    "7d:27 7e:3d 7f:22 80:d8 81-89/1:61 8a:ab 8b:bb 8c:f0 8d-8e/1:fd 8f:b1 90:b0 91-99/1:6a 9a:aa",
    "9b:ba 9c:e6 9d:b8 9e:c6 9f:20ac a0:b5 a1:7e a2-a9/1:73 aa:a1 ab:bf ac:d0 ad-ae/1:dd af:ae",
    "b0:5e b1:a3 b2:a5 b3:b7 b4:a9 b5:a7 b6:b6 b7-b9/1:bc ba:5b bb:5d bc:af bd:a8 be:b4 bf:d7 c0:7b",
    "c1-c9/1:41 ca:ad cb:f4 cc:f6 cd-ce/1:f2 cf:f5 d0:7d d1-d9/1:4a da:b9 db-dc/1:fb dd-de/1:f9",
    "df:ff e0:5c e1:f7 e2-e9/1:53 ea:b2 eb:d4 ec:d6 ed-ee/1:d2 ef:d5 f0-f9/1:30 fa:b3 fb-fc/1:db",
    "fd-fe/1:d9 ff:9f"]]

end CodePage

end LiveMarkdown.Text
