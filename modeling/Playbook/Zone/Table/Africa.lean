/-!
# Playbook.Zone.Table.Africa

The histories of the zones whose names start with `Africa`, in the form of
`Playbook.Zone.History`.
-/

namespace Playbook.Zone.Table

/-- Names of zones with their histories. -/
def africa : List (String × String) := [
  ("Africa/Abidjan",
    "-968 0;b3aklruw;"),
  ("Africa/Algiers",
    "732 561 0 3600d 3600 7200d;b2zpwx7o cafgo4r d2qx1nl c5luo0 d8y800 ca4tc0 d7vc00 cauqo0
    d7idc0 cb7pc0 d6sg00 ccyo00 d7ayo0 c53c00 d9idxc0 c3i040 e51mw0 f253uk0 e9o2k0 f92040
    e8l3s0 cjutc0 e4uy840 c3rdzw0 d46xc00 c7x6o0 d2xco40 e8n180 f7x9g0 e9d440 ckiqg0 d9d440
    c9q2s0 e9cyk0;"),
  ("Africa/Bissau",
    "-3740 -3600 0;b3akltw0 cwvoyo0;"),
  ("Africa/Cairo",
    "7509 7200 10800d;b34p8bzf ckrj48l b40d80 ca31g0 b7x3w0 ca4w40 baqyk0 c80ys0 bb07w0
    c7tk40 bb07w0 c8jhg0 ba8fw0 c60go40 b7el80 cawo40 b7v980 cawqw0 b7tk40 cb07w0 b7tk40
    cayd80 b7tk40 cayd80 b7tk40 cayd80 b7tk40 cb07w0 b7tk40 cayd80 b7tk40 cayd80 b7ves0
    cawik0 b7ves0 cayd80 b7ves0 cawik0 b7ves0 cawik0 b7ves0 cawik0 b7ves0 cayd80 b7ves0
    cawik0 b7ves0 cawik0 b7ves0 cawik0 b7ves0 cayd80 b7ves0 cawik0 b7ves0 cawik0 b7ves0
    cawik0 b7ves0 cayd80 b7ves0 cawik0 b7ves0 cf9x80 b3i040 celuk0 b462s0 cayd80 b7ves0
    cawik0 b7ves0 cawik0 b7ves0 cawik0 b7ves0 cayd80 b7ves0 cb5rw0 b7m5g0 cawik0 b7ves0
    cawik0 b7ves0 cayd80 b7ves0 cawik0 b7ves0 cawik0 b7ves0 caqvs0 b7x3w0 casys0 b7x3w0
    casys0 b7x3w0 casys0 b7x3w0 cb5xg0 b7x3w0 casys0 b7x3w0 casys0 b7x3w0 casys0 b7x3w0
    casys0 b7x3w0 cb5xg0 b7x3w0 casys0 b7x3w0 casys0 b7k580 cb5xg0 b6u7w0 cbvus0 b6h980
    cc8tg0 b64ak0 ccyqs0 b5anw0 c1jms0 b12t80 c1w22s0 b25p80 c1sw40 b2vmk0;2023 c4.5.5/0
    b10.5.4/86400"),
  ("Africa/Casablanca",
    "-1820 0 3600d 3600;b3birf6k cdi7nxg b3huk0 c51k40 b2znuk0 c2dp9g0 b776k0 c8nt2s0 b657w0
    c3ifxg0 b3jp80 cva040 b4qak0 ce1ms0 b7pp80 ccnms0 b3afw0 d2xi840 bxqqk0 cbp56s0 b4qak0
    ce1ms0 b45x80 cd2g40 b51ek0 cc8tg0 b64ak0 ce1sc0 b47uo0 c1leo0 b23xc0 casw00 b3lmo0
    c1qyo0 b40g00 c7x6o0 b4mo00 c1stc0 b4deo0 c7x6o0 b3ylc0 c1stc0 b51hc0 c7x6o0 b3lmo0
    c1stc0 b5reo0 c7k800 b2vpc0 c25s00 b64dc0 c7k800 b2iqo0 c1stc0 bgkao0 c1stc0 bg7c00
    c25s00 bg7c00 c1stc0 bg7c00 c25s00 bg7c00 c1stc0 bgkao0 c1stc0 bg7c00 c25s00 bg7c00
    c1stc0 bgkao0 c1stc0 bg7c00 c25s00 bg7c00 c1stc0 bg7c00 c25s00 bg7c00 c1stc0 bgkao0
    c1stc0 bg7c00 c25s00 bg7c00 c1stc0 bg7c00 c25s00 bg7c00 c25s00 bg7c00 c1stc0 bg7c00
    c25s00 bg7c00 c1stc0 bgkao0 c1stc0 bg7c00 c25s00 bg7c00 c1stc0 bg7c00 c25s00 bg7c00
    c25s00 bg7c00 c1stc0 bg7c00 c25s00 bg7c00 c1stc0 bgkao0 c1stc0 bg7c00 c25s00 bg7c00
    c1stc0 bg7c00 c25s00 bg7c00 c25s00 bg7c00 c1stc0 bg7c00 c25s00 bg7c00 c1stc0 bgkao0
    c1stc0 bg7c00 c25s00 bg7c00 c1stc0 bg7c00 c25s00 bg7c00 c25s00 bg7c00 c1stc0 bg7c00
    c25s00 bg7c00 c1stc0 bgkao0 c1stc0 bg7c00 c25s00 bg7c00 c1stc0 bg7c00 c25s00 bg7c00
    c25s00 bg7c00 c1stc0 bg7c00 c25s00 bg7c00 c1stc0 bgkao0 c1stc0 bg7c00 c25s00 bg7c00
    c1stc0 bg7c00 c25s00 bg7c00 c25s00 bg7c00 c1stc0 bg7c00 c25s00 bg7c00 c1stc0 bgkao0
    c1stc0 bg7c00 c25s00 bg7c00 c1stc0 bg7c00 c25s00 bg7c00 c1stc0 bgkao0 c1stc0 bg7c00
    c25s00 bg7c00 c1stc0 bgkao0 c1stc0 bg7c00 c25s00;"),
  ("Africa/Ceuta",
    "-1276 0 3600d 3600 7200d;b34tyv40 c91vek0 b7x3w0 c2vt440 b8sqs0 cssyk0 b8n6s0 c9px80
    b905g0 ca2yo0 b902o0 ck69dc0 b657w0 c3ifxg0 b3jp80 cva040 b4qak0 ce1ms0 b7pp80 ccnms0
    b3afw0 d2xi840 e129us0 d9d1c0 e9d1c0 d9d1c0 e9d1c0 d9d1c0 e9d1c0 d9d1c0 e9d1c0 d9q000
    e9d1c0 d9d1c0 e9d1c0 d9d1c0 e9d1c0 d9d1c0 e9d1c0 d9d1c0 e9d1c0 d9d1c0;1996 e3.5.0/7200
    d10.5.0/10800"),
  ("Africa/El_Aaiun",
    "-3168 -3600 0 3600d;b3m1zaw0 cm2g0c0 dvek0 c4qak0 de1ms0 c7pp80 dcnms0 c3afw0 dfke5g0
    c4qak0 de1ms0 c45x80 dd2g40 c51ek0 dc8tg0 c64ak0 de1sc0 c47uo0 d1leo0 c23xc0 dasw00
    c3lmo0 d1qyo0 c40g00 d7x6o0 c4mo00 d1stc0 c4deo0 d7x6o0 c3ylc0 d1stc0 c51hc0 d7x6o0
    c3lmo0 d1stc0 c5reo0 d7k800 c2vpc0 d25s00 c64dc0 d7k800 c2iqo0 d1stc0 cgkao0 d1stc0
    cg7c00 d25s00 cg7c00 d1stc0 cg7c00 d25s00 cg7c00 d1stc0 cgkao0 d1stc0 cg7c00 d25s00
    cg7c00 d1stc0 cgkao0 d1stc0 cg7c00 d25s00 cg7c00 d1stc0 cg7c00 d25s00 cg7c00 d1stc0
    cgkao0 d1stc0 cg7c00 d25s00 cg7c00 d1stc0 cg7c00 d25s00 cg7c00 d25s00 cg7c00 d1stc0
    cg7c00 d25s00 cg7c00 d1stc0 cgkao0 d1stc0 cg7c00 d25s00 cg7c00 d1stc0 cg7c00 d25s00
    cg7c00 d25s00 cg7c00 d1stc0 cg7c00 d25s00 cg7c00 d1stc0 cgkao0 d1stc0 cg7c00 d25s00
    cg7c00 d1stc0 cg7c00 d25s00 cg7c00 d25s00 cg7c00 d1stc0 cg7c00 d25s00 cg7c00 d1stc0
    cgkao0 d1stc0 cg7c00 d25s00 cg7c00 d1stc0 cg7c00 d25s00 cg7c00 d25s00 cg7c00 d1stc0
    cg7c00 d25s00 cg7c00 d1stc0 cgkao0 d1stc0 cg7c00 d25s00 cg7c00 d1stc0 cg7c00 d25s00
    cg7c00 d25s00 cg7c00 d1stc0 cg7c00 d25s00 cg7c00 d1stc0 cgkao0 d1stc0 cg7c00 d25s00
    cg7c00 d1stc0 cg7c00 d25s00 cg7c00 d25s00 cg7c00 d1stc0 cg7c00 d25s00 cg7c00 d1stc0
    cgkao0 d1stc0 cg7c00 d25s00 cg7c00 d1stc0 cg7c00 d25s00 cg7c00 d1stc0 cgkao0 d1stc0
    cg7c00 d25s00 cg7c00 d1stc0 cgkao0 d1stc0 cg7c00 d25s00;"),
  ("Africa/Johannesburg",
    "6720 5400 7200 10800d;b306u1xc c5rpt0o dkn7o60 c9cyk0 d9d440 c9cyk0;"),
  ("Africa/Juba",
    "7588 7200 10800d 10800;b3khlfx8 ckixuys b8l6k0 ca4w40 b8n180 ca6qs0 b8n180 ca31g0 b8ovw0
    ca16s0 b8qqk0 c9zc40 b8sl80 c9xhg0 b8wak0 c9ts40 b8y580 ca4w40 b8n180 ca31g0 b8ovw0
    ca16s0 b8sl80 c9xhg0 b8ufw0 c9vms0 b8wak0 c9ts40 b8y580 ca4w40 b8ovw0 ca16s0 b8qqk0
    d7frw40 bazg180;"),
  ("Africa/Khartoum",
    "7808 7200 10800d 10800;b3khlfr4 ckixv4w b8l6k0 ca4w40 b8n180 ca6qs0 b8n180 ca31g0 b8ovw0
    ca16s0 b8qqk0 c9zc40 b8sl80 c9xhg0 b8wak0 c9ts40 b8y580 ca4w40 b8n180 ca31g0 b8ovw0
    ca16s0 b8sl80 c9xhg0 b8ufw0 c9vms0 b8wak0 c9ts40 b8y580 ca4w40 b8ovw0 ca16s0 b8qqk0
    d7frw40 b9ac180;"),
  ("Africa/Lagos",
    "815 0 1800 3600;b376fl5d a1kdnan c2ve7dd d2yfgkn;"),
  ("Africa/Maputo",
    "7818 7200;b3909t2u;"),
  ("Africa/Monrovia",
    "-2588 -2670 0;b3eb693w crl202a;"),
  ("Africa/Nairobi",
    "8836 9000 10800 9900;b38no2yk caiwqjg bsg1a0 d3nbte0 c2wu1z0;"),
  ("Africa/Ndjamena",
    "3612 3600 7200d;b3aklobo czdk5cc b7iak0;"),
  ("Africa/Sao_Tome",
    "1616 -2205 0 3600;b2vykoj4 cem12kw d1jbm840 cirxc0;"),
  ("Africa/Tripoli",
    "3164 3600 7200d 7200;b3eqwso4 cgl6ajw b422c0 cxado0 b4bbo0 cwrpg0 b4s580 d1kdpg0 bc05bw0
    c4mqs0 b9et80 c9d440 b9et80 c9eys0 b9et80 c9mdg0 b95jw0 c9io40 b9cyk0 c99es0 b9et80
    c9eys0 b9et80 c9d440 b9et80 db2840 b3cf3w0 c9kis0 d9et80 b7vqyw0 c75eo0 dasw00;"),
  ("Africa/Tunis",
    "2444 561 3600 7200d;b2ukzh84 cfke44b denxevl cb5uo0 d53c00 cu8w00 d7x9g0 cc8w80 d7k800
    cz3w0 dew40 c8bx80 d9d440 c9nx00 d925o0 c8l100 dgi3440 c7k800 db9k00 c7vc00 d51mw00
    c5ytc0 d9d1c0 c9d1c0 db9k00 c7thc0 d7m0tc0 c7tk40 d93us0 cb5uo0 d7k800 cb5uo0 d7x6o0
    casw00;"),
  ("Africa/Windhoek",
    "4104 5400 7200 10800d 3600 7200d;b306u3y0 c5rpr00 dkn7o60 c9cyk0 eqm87w0 f8lho0 east80
    f7x9g0 eb5rw0 f7kas0 eb5rw0 f7x9g0 east80 f7x9g0 east80 f7x9g0 east80 f7x9g0 east80
    f7x9g0 eb5rw0 f7kas0 eb5rw0 f7x9g0 east80 f7x9g0 east80 f7x9g0 east80 f7x9g0 east80
    f7x9g0 eb5rw0 f7x9g0 east80 f7x9g0 east80 f7x9g0 east80 f7x9g0 east80 f7x9g0 eb5rw0
    f7kas0 eb5rw0 f7x9g0 east80 f7x9g0 east80 f7x9g0 east80 f7x9g0 c2m7o0;")]

end Playbook.Zone.Table
