/-!
# Playbook.Zone.Table.Asia

The histories of the zones whose names start with `Asia`, in the form of
`Playbook.Zone.History`.
-/

namespace Playbook.Zone.Table

/-- Names of zones with their histories. -/
def asia : List (String × String) := [
  ("Asia/Almaty",
    "18468 18000 21600 25200d 21600d;b3h0by70 c37a0d0 dqi27w0 c9et80 d9d440 c9et80 d9d440
    c9et80 d9eys0 c9d6w0 d9d1c0 c9d1c0 d9d1c0 c9d1c0 d9d1c0 c9d1c0 d9d1c0 c9d1c0 d9d1c0
    c9d1c0 d9d1c0 c9q000 e9d1c0 b9d440 c5reo0 d3ljw0 c9d1c0 d9d1c0 c9d1c0 d9d1c0 c9d1c0
    d9d1c0 c9d1c0 d9q000 casw00 d7x6o0 casw00 d7x6o0 casw00 d7x6o0 cb5uo0 d7k800 cb5uo0
    d7k800 cb5uo0 d7x6o0 casw00 d7x6o0 casw00 d7x6o0 cb5uo0 ba37rs0;"),
  ("Asia/Amman",
    "8624 7200 10800d 10800;b3khlf4g cm566fk b60l80 cawo40 b7v980 cawo40 b7v980 cayis0 b9gnw0
    c9b9g0 b7v980 cautg0 b7v980 c3e6840 b9et80 c9io40 b9cyk0 c9d440 b9cyk0 c9d440 b9px80
    cayis0 b7rjw0 cag040 b8a2k0 c9zc40 b8drw0 ca31g0 b8zzw0 c9d440 b9cyk0 c9d440 b8n180
    cag040 b8a5c0 cafxc0 b8n400 ca2yo0 b8n400 ca2yo0 b8n400 cepmo0 b4deo0 c9o5c0 b9ew00
    c9b6o0 b9ew00 c9d1c0 b9d1c0 c9d1c0 basw00 c7x6o0 bafxc0 c8n400 b9d1c0 c9d1c0 basw00
    c7x6o0 basw00 c7x6o0 bb5uo0 c7k800 bb5uo0 c7k800 bb5uo0 c7x6o0 basw00 c7x6o0 bwel80
    c51k40 bb5uo0 c7k800 bb5uo0 c7x6o0 basw00 c7x6o0 basw00 c7x6o0 basw00 c7x6o0 basw00
    c7x6o0 bb5uo0 c7k800 bb5uo0 c64dc0 dclpc0;"),
  ("Asia/Anadyr",
    "42596 43200 46800 50400d 46800d 43200d 39600;b3h0bfks c379zj8 dqi27w0 c9et80 e9d440
    b9ew00 e9d440 b9et80 e9eys0 b9d6w0 e9d1c0 b9d1c0 e9d1c0 b9d1c0 e9d1c0 b9d1c0 e9d1c0
    b9d1c0 e9d1c0 b9d1c0 e9d1c0 b9q000 f9d1c0 g9d440 b5reo0 e3ljw0 b9d1c0 e9d1c0 b9d1c0
    e9d1c0 b9d1c0 e9d1c0 b9d1c0 e9q000 basw00 e7x6o0 basw00 e7x6o0 basw00 e7x6o0 bb5uo0
    e7k800 bb5uo0 e7k800 bb5uo0 e7x6o0 basw00 e7x6o0 basw00 e7x6o0 bb5uo0 e7k800 bb5uo0
    e7k800 bb5uo0 e7k800 bb5uo0 e7x6o0 basw00 e7x6o0 basw00 f7x6o0 gb5xg0 b7k800;"),
  ("Asia/Aqtau",
    "12064 14400 18000 21600 21600d 18000d;b3h0c34w c379y74 dqrh3w0 e9cyk0 c9ew00 e9d440
    c9et80 e9eys0 c9d6w0 e9d1c0 c9d1c0 e9d1c0 c9d1c0 e9d1c0 c9d1c0 e9d1c0 c9d1c0 e9d1c0
    c9d1c0 e9d1c0 c9q000 f9d1c0 b9d440 c5reo0 e3ljw0 c9d1c0 e9d1c0 c9d1c0 e9d1c0 b9d1c0
    f9d440 b9d1c0 f9q000 basw00 f7x6o0 basw00 f7x6o0 basw00 f7x6o0 bb5uo0 f7k800 bb5uo0
    f7k800 bb5uo0 f7x6o0 basw00 f7x6o0 basw00 f7x6o0 cb5uo0;"),
  ("Asia/Aqtobe",
    "13720 14400 18000 21600d 21600 18000d;b3h0c1uw c379zh4 dqi27w0 e9et80 d9d1c0 c9ew00
    d9d440 c9et80 d9eys0 c9d6w0 d9d1c0 c9d1c0 d9d1c0 c9d1c0 d9d1c0 c9d1c0 d9d1c0 c9d1c0
    d9d1c0 c9d1c0 d9d1c0 c9q000 f9d1c0 b9d440 c5reo0 d3ljw0 c9d1c0 d9d1c0 c9d1c0 d9d1c0
    c9d1c0 d9d1c0 c9d1c0 d9q000 casw00 d7x6o0 casw00 d7x6o0 casw00 d7x6o0 cb5uo0 d7k800
    cb5uo0 d7k800 cb5uo0 d7x6o0 casw00 d7x6o0 casw00 d7x6o0 cb5uo0;"),
  ("Asia/Ashgabat",
    "14012 14400 18000 21600d 18000d;b3h0c1ms c379zp8 dqi27w0 c9et80 d9d440 c9et80 d9d440
    c9et80 d9eys0 c9d6w0 d9d1c0 c9d1c0 d9d1c0 c9d1c0 d9d1c0 c9d1c0 d9d1c0 c9d1c0 d9d1c0
    c9d1c0 d9d1c0 c9q000 e9d1c0 b9d440 c5reo0;"),
  ("Asia/Atyrau",
    "12464 10800 18000 21600 21600d 18000d 14400;b3h0c2ts c37a1a8 dqrh140 e9cyk0 c9ew00
    e9d440 c9et80 e9eys0 c9d6w0 e9d1c0 c9d1c0 e9d1c0 c9d1c0 e9d1c0 c9d1c0 e9d1c0 c9d1c0
    e9d1c0 c9d1c0 e9d1c0 c9q000 f9d1c0 g9d440 c5reo0 e3ljw0 c9d1c0 e9d1c0 c9d1c0 e9d1c0
    c9d1c0 e9d1c0 c9d1c0 e9q000 casw00 e7x6o0 casw00 e7x6o0 casw00 f7x6o0 gb5xg0 f7k800
    gb5uo0 f7k800 gb5uo0 f7x6o0 gasw00 f7x6o0 gasw00 f7x6o0 cb5uo0;"),
  ("Asia/Baghdad",
    "10660 10656 10800 14400d;b2z3bqvw cem11c4 dxkn3w0 c7v980 d9b9g0 c9gnw0 d9eys0 c9et80
    d9d440 c9b9g0 d9d1c0 c9d1c0 d9d1c0 c9d1c0 d9d1c0 c9d1c0 d9d1c0 c9d1c0 d9d1c0 c9q000
    d9f1k0 c9ew00 d9ew00 c9ew00 d9d1c0 c9ew00 d9d1c0 c9ew00 d9d1c0 c9ew00 d9ew00 c9ew00
    d9d1c0 c9ew00 d9d1c0 c9ew00 d9d1c0 c9ew00 d9ew00 c9ew00 d9d1c0 c9ew00 d9d1c0 c9ew00
    d9d1c0 c9ew00 d9ew00 c9ew00 d9d1c0 c9ew00 d9d1c0 c9ew00 d9d1c0 c9ew00;"),
  ("Asia/Baku",
    "11964 10800 14400 18000d 14400d;b3h0c37o ch4tkwc dckinw0 c9et80 d9d440 c9et80 d9d440
    c9et80 d9eys0 c9d6w0 d9d1c0 c9d1c0 d9d1c0 c9d1c0 d9d1c0 c9d1c0 d9d1c0 c9d1c0 d9d1c0
    c9d1c0 d9d1c0 c9q000 e9d1c0 b9d440 e9d1c0 c9d1c0 d1twdk0 casw00 d7x3w0 casw00 d7x6o0
    casw00 d7x6o0 cb5uo0 d7k800 cb5uo0 d7k800 cb5uo0 d7x6o0 casw00 d7x6o0 casw00 d7x6o0
    cb5uo0 d7k800 cb5uo0 d7k800 cb5uo0 d7k800 cb5uo0 d7x6o0 casw00 d7x6o0 casw00 d7x6o0
    cb5uo0 d7k800 cb5uo0 d7k800 cb5uo0 d7x6o0 casw00 d7x6o0 casw00 d7x6o0 casw00;"),
  ("Asia/Bangkok",
    "24124 25200;b3evkv5w;"),
  ("Asia/Barnaul",
    "20100 21600 25200 28800d 25200d;b3eproxo c5hu6uc dqi27w0 c9et80 d9d440 c9et80 d9d440
    c9et80 d9eys0 c9d6w0 d9d1c0 c9d1c0 d9d1c0 c9d1c0 d9d1c0 c9d1c0 d9d1c0 c9d1c0 d9d1c0
    c9d1c0 d9d1c0 c9q000 e9d1c0 b9d440 c5reo0 d3ljw0 c9d1c0 d9d1c0 c9d1c0 d9d1c0 c9d1c0
    d9d1c0 e38fo0 b64og0 e9q000 basw00 e7x6o0 basw00 e7x6o0 basw00 e7x6o0 bb5uo0 e7k800
    bb5uo0 e7k800 bb5uo0 e7x6o0 basw00 e7x6o0 basw00 e7x6o0 bb5uo0 e7k800 bb5uo0 e7k800
    bb5uo0 e7k800 bb5uo0 e7x6o0 basw00 e7x6o0 basw00 e7x6o0 bb5uo0 c7k800 b1vbzw0 cqnc40;"),
  ("Asia/Beirut",
    "8520 7200 10800d;b2tvez7c ckzyuco baunw0 c88dg0 b9et80 c8yas0 ba2vw0 ca31g0 b7k580
    chjqo40 b7v980 cawo40 b7v980 cawo40 b7v980 cayis0 b7v980 cawo40 b7v980 c5lhs40 b56yk0
    cawo40 b7v980 cawo40 b7v980 cawo40 b7v980 cayis0 b7v980 cawo40 b7v980 cautg0 b7v980
    c2wxus0 b8n180 ca4w40 b8n180 ca4w40 b8n180 ca4w40 b8n180 cbs5g0 b71mk0 calk40 b86d80
    ca4w40 b8n180 ca4w40 b8n180 ca6qs0 b80t80 c905g0 b9cyk0 c9d440 b9cyk0 c9d440 b9cyk0
    c9q2s0 b9cyk0 c9d440 b9cyk0 c9d440 b9cyk0;1999 c3.5.0/0 b10.5.0/0"),
  ("Asia/Bishkek",
    "17904 18000 21600 25200d 21600d;b3h0bymo c379zxc dqi27w0 c9et80 d9d440 c9et80 d9d440
    c9et80 d9eys0 c9d6w0 d9d1c0 c9d1c0 d9d1c0 c9d1c0 d9d1c0 c9d1c0 d9d1c0 c9d1c0 d9d1c0
    c9d1c0 d9d1c0 c9q000 e9d1c0 b7vc00 ebkl80 b8n180 ea31g0 b8n180 ea31g0 b8n180 ea31g0
    b8n180 ea31g0 b8zzw0 e9db20 bast80 e7x9g0 bast80 e7x9g0 bb5rw0 e7kas0 bb5rw0 e7kas0
    bb5rw0 e7x9g0 bast80 e7x9g0 bast80 e7x9g0 bb5rw0 e7kas0 c73aa0;"),
  ("Asia/Chita",
    "27232 28800 32400 36000d 32400d 36000;b3eq0srk c5hkxgg dqi27w0 c9et80 d9d440 c9et80
    d9d440 c9et80 d9eys0 c9d6w0 d9d1c0 c9d1c0 d9d1c0 c9d1c0 d9d1c0 c9d1c0 d9d1c0 c9d1c0
    d9d1c0 c9d1c0 d9d1c0 c9q000 e9d1c0 b9d440 c5reo0 d3ljw0 c9d1c0 d9d1c0 c9d1c0 d9d1c0
    c9d1c0 d9d1c0 c9d1c0 d9q000 casw00 d7x6o0 casw00 d7x6o0 casw00 d7x6o0 cb5uo0 d7k800
    cb5uo0 d7k800 cb5uo0 d7x6o0 casw00 d7x6o0 casw00 d7x6o0 cb5uo0 d7k800 cb5uo0 d7k800
    cb5uo0 d7k800 cb5uo0 d7x6o0 casw00 d7x6o0 casw00 d7x6o0 cb5uo0 f7k800 b1vbzw0 cqnew0;"),
  ("Asia/Colombo",
    "19164 19172 19800 21600d 23400d 23400 21600;b2tveqzo cdkh6ns disle6k ecajy0 c1mp2u0
    fqetjw0 g7x5a0 c4xvqq0;"),
  ("Asia/Damascus",
    "8712 7200 10800d 10800;b3eqwoe0 c5k6q0 b8n180 ca31g0 b8n180 ca31g0 b8n180 ca31g0 b8zzw0
    ck4hk40 b7yyk0 cawo40 b7tek0 cb0dg0 b7v980 cawo40 b7tek0 calk40 b887w0 cawo40 b7v980
    cayis0 b7v980 cawo40 b7v980 cawo40 b7v980 cawo40 b7v980 cayis0 b7v980 cawo40 b7v980
    cawo40 b7v980 cawo40 b7v980 cayis0 b7v980 cawo40 b6bp80 ccg840 b6bp80 c2eh1g0 b8zzw0
    c9ts40 b8zzw0 cpvk40 bc33w0 c7cw40 bcjrw0 c6zxg0 bbtuk0 c7rpg0 b9gnw0 c9d440 b9cyk0
    c9et80 b9et80 c9rxg0 b91uk0 c92040 b9et80 c9o840 b9et80 c9d440 b9et80 c9eys0 b9et80
    c9b9g0 b9gnw0 c99es0 b9iik0 c9d440 b9et80 c9eys0 b9et80 c9d440 b9et80 c9d440 b9et80
    c9d440 b9et80 c9eys0 b9et80 c9d440 b9et80 c9d440 b8y580 c9q2s0 bb5rw0 c7x9g0 baunw0
    c7ig40 bb5rw0 c7x9g0 bast80 c7x9g0 bast80 c7x9g0 bast80 c7x9g0 bast80 c7x9g0 bb5rw0
    c7kas0 bb5rw0 c7kas0 bb5rw0 c7x9g0 bast80 c7x9g0 bast80 c7x9g0 bast80 c7x9g0 bb5rw0
    c7kas0 bb5rw0 c7kas0 db5rw0;"),
  ("Asia/Dhaka",
    "21700 21200 23400 19800 21600 25200d;b2z3bid8 cr080dw dbmgyw c5lxg0 e4qknw0 fu4ijy0
    ea1400;"),
  ("Asia/Dili",
    "30140 28800 32400;b3akl4w0 cfqct80 bhufs00 ccpz440;"),
  ("Asia/Dubai",
    "13272 14400;b3eqwkvc;"),
  ("Asia/Dushanbe",
    "16512 18000 21600 25200d 21600d;b3h0bzpc c379yuo dqi27w0 c9et80 d9d440 c9et80 d9d440
    c9et80 d9eys0 c9d6w0 d9d1c0 c9d1c0 d9d1c0 c9d1c0 d9d1c0 c9d1c0 d9d1c0 c9d1c0 d9d1c0
    c9d1c0 d9d1c0 c9q000 e9d1c0 b8c2s0;"),
  ("Asia/Famagusta",
    "8148 7200 10800d 10800;b3fq1i5o crvhy2c b9cyk0 cb42s0 b7nuk0 c8yas0 b8zzw0 c9q2s0 b9et80
    c9b9g0 b9cyk0 c9q2s0 b8zzw0 c9d440 b9cyk0 c9d440 b9cyk0 c9d440 b9cyk0 c9d440 b9px80
    c9d440 b9cyk0 c9d440 b9cyk0 c9d440 b9cyk0 c9d440 b9cyk0 c9d440 b9cyk0 c9d440 b9px80
    c9d440 b9cyk0 c9d440 b9cyk0 c9d440 b9cyk0 c9d440 b9cyk0 c9d440 b9cyk0 c9q2s0 b9cyk0
    c9d440 b9cyk0 c9d440 bat4c0 c7x6o0 bb5uo0 c7k800 bb5uo0 c7k800 bb5uo0 c7x6o0 basw00
    c7x6o0 basw00 c7x6o0 bb5uo0 c7k800 bb5uo0 c7k800 bb5uo0 c7k800 bb5uo0 c7x6o0 basw00
    c7x6o0 basw00 c7x6o0 bb5uo0 c7k800 bb5uo0 c7k800 bb5uo0 c7x6o0 basw00 c7x6o0 basw00
    c7x6o0 basw00 c7x6o0 d8h8w0 bleog0;2018 c3.5.0/10800 b10.5.0/14400"),
  ("Asia/Gaza",
    "8272 7200 10800d;b34p8be8 ckp9t1s b69xc0 c2f1c0 b10q800 c7rmo0 bb0ao0 c7thc0 bb0ao0
    c8jeo0 ba8io0 c8jeo0 ba8io0 c5hoig0 b7el80 cawo40 b7v980 cawqw0 b7tk40 cb07w0 b7tk40
    cayd80 b7tk40 cayd80 b7tk40 cayd80 b7tk40 cb07w0 b7tk40 cayd80 b7tk40 cayd80 b7ves0
    cawik0 b1sns0 c3p6is0 b51ek0 c9q2s0 b6u7w0 c2kjk40 b25s00 c1weyo0 b5reo0 cbvs00 b776k0
    cdbpg0 b5rbw0 cbbhg0 b7rjw0 casys0 b7k580 cc8tg0 b6h980 cag040 b7x3w0 casys0 b8a2k0
    casys0 b8a2k0 cap9g0 b80t80 cap9g0 b7nuk0 cb2840 b80t80 cb2840 b8n400 ca2yo0 b8n400
    ca2yo0 b8n400 casw00 b9cyk0 c9q2s0 b9cyk0 c9d440 b9cyk0 c9d440 b9cyk0 c9d440 b9cyk0
    c9d440 b8n400 ca2yo0 b8ulg0 c97ek0 b8y580 c9ts40 b8hms0 ca4qk0 b7x3w0 casys0 b8a5c0
    cahs1o b71mic cbzk5o b69uic ccg840 b902o0 c9q000 b9cyk0 c9d440 bast80 c7z440 bar1c0
    c7z440 bb5rw0 c7kas0 bb5rw0 c7kas0 bb5rw0 c7vc00 baunw0 c7x9g0 basw00 c7x6o0 bb4000
    c7nxc0 bb42s0 c9d440 b9cyk0 c905g0 b9px80 c8n6s0 ba2vw0 c7x9g0 bast80 c7x9g0 bb5rw0
    c7kas0 bb5rw0 c7kas0 bb5rw0 c7x9g0 bast80 c7x9g0 bast80 c7x9g0 bb5rw0 c7kas0 bb5rw0
    c7kas0 bb5rw0 c7kas0 bb5rw0 c7x9g0 bafuk0 c8a840 ba2vw0 c8n6s0 b9cyk0 c9d440 b8zzw0
    c9q2s0 b8a2k0 c2itg0 bcvw0 c7x9g0 b7k580 c25us0 b12t80 c7x9g0 b776k0 c25us0 b1frw0 c7x9g0
    b6h980 c2itg0 b1sqk0 c7x9g0 b64ak0 c25us0 b2vmk0 c7kas0 b5rbw0 c25us0 b38l80 c7kas0
    b51ek0 c2itg0 b3ljw0 c7x9g0 b4bh80 c25us0 b4bh80 c7x9g0 b3ljw0 c2itg0 b4ofw0 c7x9g0
    b38l80 c25us0 b5rbw0 c7kas0 b2vmk0 c25us0 b64ak0 c7kas0 b25p80 c2itg0 b6h980 c7x9g0
    b1frw0 c25us0 b776k0 c7x9g0 bpuk0 c2itg0 b7k580 c7x9g0 bcvw0 c2itg0 b7x3w0 ca31g0 b8zzw0
    c9d440 b9cyk0 c8n6s0 ba2vw0 c8a840 bafuk0 c7x9g0 bast80 c7x9g0 bb5rw0 c7kas0 bb5rw0
    c7kas0 bb5rw0 c7kas0 bb5rw0 c7x9g0 bast80 c7x9g0 bast80 c7x9g0 bb5rw0 c7kas0 bb5rw0
    c7kas0 bast80 c8a840 ba2vw0 c8n6s0 b9px80 c905g0 b8zzw0 c9q2s0 b8n180 c25us0 bcvw0 c7kas0
    b8a2k0 c25us0 bpuk0 c7kas0 b7k580 c2itg0 b12t80 c7x9g0 b6u7w0 c25us0 b1sqk0 c7x9g0 b64ak0
    c2itg0 b25p80 c7x9g0 b5rbw0 c2itg0 b2vmk0 c7kas0 b5ed80 c25us0 b3ljw0 c7kas0 b4ofw0
    c2itg0 b3yik0 c7x9g0 b3yik0 c25us0 b4ofw0 c7x9g0 b3ljw0 c25us0 b51ek0 c7x9g0 b2vmk0
    c2itg0 b5ed80 c7x9g0 b2inw0 c25us0 b6h980 c7kas0 b1sqk0 c2itg0 b6u7w0 c7kas0 b1frw0
    c2itg0 b776k0 c7x9g0 bpuk0 c25us0 b7x3w0;2087 c3.4.4/180000 b10.4.4/180000"),
  ("Asia/Hebron",
    "8423 7200 10800d;b34p8ba1 ckp9t5z b69xc0 c2f1c0 b10q800 c7rmo0 bb0ao0 c7thc0 bb0ao0
    c8jeo0 ba8io0 c8jeo0 ba8io0 c5hoig0 b7el80 cawo40 b7v980 cawqw0 b7tk40 cb07w0 b7tk40
    cayd80 b7tk40 cayd80 b7tk40 cayd80 b7tk40 cb07w0 b7tk40 cayd80 b7tk40 cayd80 b7ves0
    cawik0 b1sns0 c3p6is0 b51ek0 c9q2s0 b6u7w0 c2kjk40 b25s00 c1weyo0 b5reo0 cbvs00 b776k0
    cdbpg0 b5rbw0 cbbhg0 b7rjw0 casys0 b7k580 cc8tg0 b6h980 cag040 b7x3w0 casys0 b8a2k0
    casys0 b8a2k0 cap9g0 b80t80 cap9g0 b7nuk0 cb2840 b80t80 cb2840 b8n400 ca2yo0 b8n400
    ca2yo0 b8n400 casw00 b9cyk0 c9q2s0 b9cyk0 c9d440 b9cyk0 c9d440 b9cyk0 c9d440 b9cyk0
    c9d440 b8n400 ca2yo0 b8ulg0 c97ek0 b8y580 c9ts40 b8hms0 ca4qk0 b82nw0 canes0 b8a5c0
    cafxc0 b73h80 cbzk5o b69uic c1hs40 b1lbw0 c9d440 b902o0 c9q000 b9cyk0 c9d440 bast80
    c7z440 bar1c0 c7z440 bb5rw0 c7kas0 bb5rw0 c7kas0 bb5rw0 c7vc00 baunw0 c7x9g0 basw00
    c7x6o0 bb4000 c7nxc0 bb42s0 c9d440 b9cyk0 c905g0 b9px80 c8n6s0 ba2vw0 c7x9g0 bast80
    c7x9g0 bb5rw0 c7kas0 bb5rw0 c7kas0 bb5rw0 c7x9g0 bast80 c7x9g0 bast80 c7x9g0 bb5rw0
    c7kas0 bb5rw0 c7kas0 bb5rw0 c7kas0 bb5rw0 c7x9g0 bafuk0 c8a840 ba2vw0 c8n6s0 b9cyk0
    c9d440 b8zzw0 c9q2s0 b8a2k0 c2itg0 bcvw0 c7x9g0 b7k580 c25us0 b12t80 c7x9g0 b776k0 c25us0
    b1frw0 c7x9g0 b6h980 c2itg0 b1sqk0 c7x9g0 b64ak0 c25us0 b2vmk0 c7kas0 b5rbw0 c25us0
    b38l80 c7kas0 b51ek0 c2itg0 b3ljw0 c7x9g0 b4bh80 c25us0 b4bh80 c7x9g0 b3ljw0 c2itg0
    b4ofw0 c7x9g0 b38l80 c25us0 b5rbw0 c7kas0 b2vmk0 c25us0 b64ak0 c7kas0 b25p80 c2itg0
    b6h980 c7x9g0 b1frw0 c25us0 b776k0 c7x9g0 bpuk0 c2itg0 b7k580 c7x9g0 bcvw0 c2itg0 b7x3w0
    ca31g0 b8zzw0 c9d440 b9cyk0 c8n6s0 ba2vw0 c8a840 bafuk0 c7x9g0 bast80 c7x9g0 bb5rw0
    c7kas0 bb5rw0 c7kas0 bb5rw0 c7kas0 bb5rw0 c7x9g0 bast80 c7x9g0 bast80 c7x9g0 bb5rw0
    c7kas0 bb5rw0 c7kas0 bast80 c8a840 ba2vw0 c8n6s0 b9px80 c905g0 b8zzw0 c9q2s0 b8n180
    c25us0 bcvw0 c7kas0 b8a2k0 c25us0 bpuk0 c7kas0 b7k580 c2itg0 b12t80 c7x9g0 b6u7w0 c25us0
    b1sqk0 c7x9g0 b64ak0 c2itg0 b25p80 c7x9g0 b5rbw0 c2itg0 b2vmk0 c7kas0 b5ed80 c25us0
    b3ljw0 c7kas0 b4ofw0 c2itg0 b3yik0 c7x9g0 b3yik0 c25us0 b4ofw0 c7x9g0 b3ljw0 c25us0
    b51ek0 c7x9g0 b2vmk0 c2itg0 b5ed80 c7x9g0 b2inw0 c25us0 b6h980 c7kas0 b1sqk0 c2itg0
    b6u7w0 c7kas0 b1frw0 c2itg0 b776k0 c7x9g0 bpuk0 c25us0 b7x3w0;2087 c3.4.4/180000
    b10.4.4/180000"),
  ("Asia/Ho_Chi_Minh",
    "25590 25200 28800 32400;b3a7zi16 cgj25iu d15ct80 b8so00 ctmtk0 b4azmo0 c2cm7w0 b8285c0;"),
  ("Asia/Hong_Kong",
    "27402 28800 32400d 30600d 32400;b36tv7o0 cj44dk0 d5k000 e4d4y0 b2195i0 c7x3w0 bbj320
    c6uao0 bbvs00 c7x6o0 b9d1c0 c7x6o0 basw00 c7x6o0 basw00 c7x6o0 basw00 c8a5c0 basw00
    c7x6o0 bast80 c77c40 bbiqk0 c77c40 bbvp80 c6udg0 bbvp80 c77c40 bbiqk0 c77c40 bbiqk0
    c77c40 bbiqk0 c77c40 bbvp80 c6udg0 bbvp80 c6udg0 bbvp80 c77c40 bbiqk0 c77c40 bbiqk0
    c8n6s0 b9cyk0 c9d440 b9cyk0 c9d440 b9px80 c9d440 b9cyk0 c9d440 b9cyk0 c9d440 b9cyk0
    c9d440 b9cyk0 c9d440 b9px80 c9d440 b9cyk0 c3lpg0 bf4d80 c9d440 b9cyk0 c9d440 b9cyk0
    c1c9440 b8a2k0;"),
  ("Asia/Hovd",
    "21996 21600 25200 28800d;b3780jh0 c11sncb0 d2qk2k0 c9et80 d9eys0 c9cyk0 d9d440 c9cyk0
    d9d440 c9cyk0 d9d440 c9cyk0 d9d440 c9cyk0 d9d440 c9cyk0 d9d440 c9px80 d9d440 c9cyk0
    d9d440 c9cyk0 d9d440 c9cyk0 d9d440 c9cyk0 d9d440 c9cyk0 d9q2s0 c9cyk0 d9d440 c9cyk0
    d9d440 c9cyk0 d1ckdo0 c7x3w0 d9d440 c9cyk0 d9d440 c9cyk0 d9d440 c9cyk0 d9d440 c9cyk0
    d9d440 c9px80 d4fio40 c9ct00 d9d9o0 c9ct00;"),
  ("Asia/Irkutsk",
    "25025 25200 28800 32400d 28800d 32400;b3es4rsv c5fh175 dqi27w0 c9et80 d9d440 c9et80
    d9d440 c9et80 d9eys0 c9d6w0 d9d1c0 c9d1c0 d9d1c0 c9d1c0 d9d1c0 c9d1c0 d9d1c0 c9d1c0
    d9d1c0 c9d1c0 d9d1c0 c9q000 e9d1c0 b9d440 c5reo0 d3ljw0 c9d1c0 d9d1c0 c9d1c0 d9d1c0
    c9d1c0 d9d1c0 c9d1c0 d9q000 casw00 d7x6o0 casw00 d7x6o0 casw00 d7x6o0 cb5uo0 d7k800
    cb5uo0 d7k800 cb5uo0 d7x6o0 casw00 d7x6o0 casw00 d7x6o0 cb5uo0 d7k800 cb5uo0 d7k800
    cb5uo0 d7k800 cb5uo0 d7x6o0 casw00 d7x6o0 casw00 d7x6o0 cb5uo0 f7k800 c1vbzw0;"),
  ("Asia/Jakarta",
    "25632 26400 27000 32400 28800 25200;b3gu1uqo c4lzxc0 d4wdzjc c1tu960 e1cx860 c11jta0
    f74uc20;"),
  ("Asia/Jayapura",
    "33768 32400 34200;b3lg1me0 c66bqe0 ba37vy0;"),
  ("Asia/Jerusalem",
    "8454 8440 7200 10800d 14400d;b2tvez96 cjtxuoe dbp5aig c69xc0 d2f1c0 c10q800 d7rmo0
    cb0ao0 d7thc0 cb0ao0 d8jeo0 ca8io0 d8jeo0 ca8io0 et9pc0 d571c0 c34yo0 d9b6o0 c9gqo0
    d8jeo0 c7thc0 da6o00 cbitc0 d8a5c0 c9d1c0 d902o0 c7x6o0 de1k00 c4oio0 de1k00 c4oio0
    ddolc0 c64dc0 dasw00 c7k800 d8rfeg0 c51ek0 d9q2s0 c6u7w0 d2kjk40 c25s00 d1weyo0 c5reo0
    dbvs00 c776k0 ddbpg0 c5rbw0 dbbhg0 c7rjw0 dasys0 c7k580 dc8tg0 c6h980 dag040 c7x3w0
    dasys0 c8a2k0 dasys0 c8a2k0 dap9g0 c80t80 dap9g0 c7nuk0 db2840 c80t80 d9zc40 c9iik0
    d9kis0 c93p80 d9mdg0 c8qqk0 dapf00 c7x3w0 dbiw40 c8zx40 d9io40 c8n180 d9kis0 c9vh80
    d8ulg0 c9px80 d9mdg0 c8n180 d9tuw0 c9tmk0 d8wg40 c9gnw0 d99es0 c8qqk0 d9zc40 c9tmk0
    d8wg40 c9gnw0 d99es0 c8qqk0 dacas0 c9gnw0 d99es0 c93p80;2013 d3.4.4/93600 c10.5.0/7200"),
  ("Asia/Kabul",
    "16608 14400 16200;b2z3bmao cspc1pc;"),
  ("Asia/Kamchatka",
    "38076 39600 43200 46800d 43200d;b3g8ldqc c3z045o dqi27w0 c9et80 d9d440 c9et80 d9d440
    c9et80 d9eys0 c9d6w0 d9d1c0 c9d1c0 d9d1c0 c9d1c0 d9d1c0 c9d1c0 d9d1c0 c9d1c0 d9d1c0
    c9d1c0 d9d1c0 c9q000 e9d1c0 b9d440 c5reo0 d3ljw0 c9d1c0 d9d1c0 c9d1c0 d9d1c0 c9d1c0
    d9d1c0 c9d1c0 d9q000 casw00 d7x6o0 casw00 d7x6o0 casw00 d7x6o0 cb5uo0 d7k800 cb5uo0
    d7k800 cb5uo0 d7x6o0 casw00 d7x6o0 casw00 d7x6o0 cb5uo0 d7k800 cb5uo0 d7k800 cb5uo0
    d7k800 cb5uo0 d7x6o0 casw00 d7x6o0 casw00 e7x6o0 bb5xg0 c7k800;"),
  ("Asia/Karachi",
    "16092 19800 23400d 18000 21600d;b37ynxd0 cim3zt0 b1mn180 d33xpg0 eqd6eq0 d9cyk0 e2y85g0
    d7v980 e8hms0 daaak0;"),
  ("Asia/Kathmandu",
    "20476 19800 20700;b3eqwfb8 cyg2lus;"),
  ("Asia/Khandyga",
    "32533 28800 32400 36000d 32400d 36000 39600d 39600;b3eq0oob c5hl1jp dqi27w0 c9et80
    d9d440 c9et80 d9d440 c9et80 d9eys0 c9d6w0 d9d1c0 c9d1c0 d9d1c0 c9d1c0 d9d1c0 c9d1c0
    d9d1c0 c9d1c0 d9d1c0 c9d1c0 d9d1c0 c9q000 e9d1c0 b9d440 c5reo0 d3ljw0 c9d1c0 d9d1c0
    c9d1c0 d9d1c0 c9d1c0 d9d1c0 c9d1c0 d9q000 casw00 d7x6o0 casw00 d7x6o0 casw00 d7x6o0
    cb5uo0 d7k800 cb5uo0 d7k800 cb5uo0 d7x6o0 casw00 d7x6o0 casw00 f3fx40 g4h6s0 fb5uo0
    g7k800 fb5uo0 g7k800 fb5uo0 g7k800 fb5uo0 g7x6o0 fasw00 g7x6o0 fasw00 g7x6o0 fb5uo0
    h7k800 f8ql00 c1mlho0;"),
  ("Asia/Kolkata",
    "21208 21200 19270 19800 23400d;b2gk35ew c83glc8 disc6tm einnm9a dbmfw0 e5lxg0 d1mn180;"),
  ("Asia/Krasnoyarsk",
    "22286 21600 25200 28800d 25200d 28800;b3er5n8y c5gg8j2 dqi27w0 c9et80 d9d440 c9et80
    d9d440 c9et80 d9eys0 c9d6w0 d9d1c0 c9d1c0 d9d1c0 c9d1c0 d9d1c0 c9d1c0 d9d1c0 c9d1c0
    d9d1c0 c9d1c0 d9d1c0 c9q000 e9d1c0 b9d440 c5reo0 d3ljw0 c9d1c0 d9d1c0 c9d1c0 d9d1c0
    c9d1c0 d9d1c0 c9d1c0 d9q000 casw00 d7x6o0 casw00 d7x6o0 casw00 d7x6o0 cb5uo0 d7k800
    cb5uo0 d7k800 cb5uo0 d7x6o0 casw00 d7x6o0 casw00 d7x6o0 cb5uo0 d7k800 cb5uo0 d7k800
    cb5uo0 d7k800 cb5uo0 d7x6o0 casw00 d7x6o0 casw00 d7x6o0 cb5uo0 f7k800 c1vbzw0;"),
  ("Asia/Kuching",
    "26480 27000 28800 30000d 32400;b3hyotcg c3khwxk d1epvy0 c4ohqo de5a9c c4ohqo de3flc
    c4ohqo de3flc c4ohqo de3flc c4ohqo de5a9c c4ohqo de3flc c4ohqo e3ajlc c1v2qk0;"),
  ("Asia/Macau",
    "27250 28800 32400 36000d 32400d;b36tv632 cjdvyoy d6onw0 cac580 d8fs40 c7v980 b11luw0
    eawlc0 b7vc00 eac800 bbko00 e7x6o0 b9d1c0 e7vc00 basw00 e7x6o0 basw00 e7x6o0 bauqo0
    e88ao0 basw00 e7x6o0 basw00 e779c0 bbitc0 e779c0 bbvs00 e6uao0 bbw1q0 e77c40 bbiqk0
    e77c40 bbiqk0 e77c40 bbiqk0 e77c40 bbvp80 e6udg0 bbvp80 e6udg0 bbvp80 e77c40 bbiqk0
    e77c40 bbiqk0 e8n6s0 b9cvs0 e9d6w0 b9cvs0 e9d6w0 b9px80 e9d440 b9cyk0 e9d440 b9cyk0
    e9d440 b9cyk0 e9d440 b9cyk0 e9d440 b9px80 e9d440 b9cyk0 e3lpg0 bf4d80 e9d440 b9cyk0
    e9d440 b9cyk0 e1c9440 b8a2k0;"),
  ("Asia/Magadan",
    "36192 36000 39600 43200d 39600d 43200;b3h0bkio c37a05c dqi27w0 c9et80 d9d440 c9et80
    d9d440 c9et80 d9eys0 c9d6w0 d9d1c0 c9d1c0 d9d1c0 c9d1c0 d9d1c0 c9d1c0 d9d1c0 c9d1c0
    d9d1c0 c9d1c0 d9d1c0 c9q000 e9d1c0 b9d440 c5reo0 d3ljw0 c9d1c0 d9d1c0 c9d1c0 d9d1c0
    c9d1c0 d9d1c0 c9d1c0 d9q000 casw00 d7x6o0 casw00 d7x6o0 casw00 d7x6o0 cb5uo0 d7k800
    cb5uo0 d7k800 cb5uo0 d7x6o0 casw00 d7x6o0 casw00 d7x6o0 cb5uo0 d7k800 cb5uo0 d7k800
    cb5uo0 d7k800 cb5uo0 d7x6o0 casw00 d7x6o0 casw00 d7x6o0 cb5uo0 f7k800 b1vbzw0 cs39k0;"),
  ("Asia/Makassar",
    "28656 28800 32400;b3lg1qc0 c4u87w0 b1w02k0;"),
  ("Asia/Manila",
    "-57368 29032 28800 32400d 32400;b2blubdk csjc9ig dje0pc0 c3wnw0 d2kc5g0 e2zbw0 d1leo00
    cdzpc0 d4d3ms0 c2rx80 dbwlpg0 c95jw0 d6lv1g0 c3jp80;"),
  ("Asia/Nicosia",
    "8008 7200 10800d;b3fq1i9k crvhxyg b9cyk0 cb42s0 b7nuk0 c8yas0 b8zzw0 c9q2s0 b9et80
    c9b9g0 b9cyk0 c9q2s0 b8zzw0 c9d440 b9cyk0 c9d440 b9cyk0 c9d440 b9cyk0 c9d440 b9px80
    c9d440 b9cyk0 c9d440 b9cyk0 c9d440 b9cyk0 c9d440 b9cyk0 c9d440 b9cyk0 c9d440 b9px80
    c9d440 b9cyk0 c9d440 b9cyk0 c9d440 b9cyk0 c9d440 b9cyk0 c9d440 b9cyk0 c9q2s0 b9cyk0
    c9d440 b9cyk0 c9d440 bat4c0;1999 c3.5.0/10800 b10.5.0/14400"),
  ("Asia/Novokuznetsk",
    "20928 21600 25200 28800d 25200d;b3h0a1mo c37bu5c dqi27w0 c9et80 d9d440 c9et80 d9d440
    c9et80 d9eys0 c9d6w0 d9d1c0 c9d1c0 d9d1c0 c9d1c0 d9d1c0 c9d1c0 d9d1c0 c9d1c0 d9d1c0
    c9d1c0 d9d1c0 c9q000 e9d1c0 b9d440 c5reo0 d3ljw0 c9d1c0 d9d1c0 c9d1c0 d9d1c0 c9d1c0
    d9d1c0 c9d1c0 d9q000 casw00 d7x6o0 casw00 d7x6o0 casw00 d7x6o0 cb5uo0 d7k800 cb5uo0
    d7k800 cb5uo0 d7x6o0 casw00 d7x6o0 casw00 d7x6o0 cb5uo0 d7k800 cb5uo0 d7k800 cb5uo0
    d7k800 cb5uo0 d7x6o0 casw00 d7x6o0 casw00 e7x6o0 bb5xg0 c7k800;"),
  ("Asia/Novosibirsk",
    "19900 21600 25200 28800d 25200d;b3epzkf8 c5hmbcs dqi27w0 c9et80 d9d440 c9et80 d9d440
    c9et80 d9eys0 c9d6w0 d9d1c0 c9d1c0 d9d1c0 c9d1c0 d9d1c0 c9d1c0 d9d1c0 c9d1c0 d9d1c0
    c9d1c0 d9d1c0 c9q000 e9d1c0 b9d440 c5reo0 d3ljw0 c9d1c0 d9d1c0 e2vh00 b6hn40 e9d1c0
    b9d1c0 e9d1c0 b9d1c0 e9q000 basw00 e7x6o0 basw00 e7x6o0 basw00 e7x6o0 bb5uo0 e7k800
    bb5uo0 e7k800 bb5uo0 e7x6o0 basw00 e7x6o0 basw00 e7x6o0 bb5uo0 e7k800 bb5uo0 e7k800
    bb5uo0 e7k800 bb5uo0 e7x6o0 basw00 e7x6o0 basw00 e7x6o0 bb5uo0 c7k800 b1vbzw0 cwrpg0;"),
  ("Asia/Omsk",
    "17610 18000 21600 25200d 21600d 25200;b3eofliu c5j6d16 dqi27w0 c9et80 d9d440 c9et80
    d9d440 c9et80 d9eys0 c9d6w0 d9d1c0 c9d1c0 d9d1c0 c9d1c0 d9d1c0 c9d1c0 d9d1c0 c9d1c0
    d9d1c0 c9d1c0 d9d1c0 c9q000 e9d1c0 b9d440 c5reo0 d3ljw0 c9d1c0 d9d1c0 c9d1c0 d9d1c0
    c9d1c0 d9d1c0 c9d1c0 d9q000 casw00 d7x6o0 casw00 d7x6o0 casw00 d7x6o0 cb5uo0 d7k800
    cb5uo0 d7k800 cb5uo0 d7x6o0 casw00 d7x6o0 casw00 d7x6o0 cb5uo0 d7k800 cb5uo0 d7k800
    cb5uo0 d7k800 cb5uo0 d7x6o0 casw00 d7x6o0 casw00 d7x6o0 cb5uo0 f7k800 c1vbzw0;"),
  ("Asia/Oral",
    "12324 10800 18000 21600d 21600 18000d 14400;b3h0c2xo c37a16c dqi2540 e9et80 d9d1c0
    c9ew00 d9d440 c9et80 d9eys0 c9d6w0 d9d1c0 c9d1c0 d9d1c0 c9d1c0 d9d1c0 c9d1c0 d9d1c0
    c9d1c0 f9d1c0 g9d440 f9d1c0 g9q000 f9d1c0 g9d1c0 c5reo0 f3ljw0 g9d440 f9d1c0 g9d1c0
    f9d1c0 g9d1c0 f9d1c0 g9d1c0 f9q000 gasw00 f7x6o0 gasw00 f7x6o0 gasw00 f7x6o0 gb5uo0
    f7k800 gb5uo0 f7k800 gb5uo0 f7x6o0 gasw00 f7x6o0 gasw00 f7x6o0 cb5uo0;"),
  ("Asia/Pontianak",
    "26240 27000 32400 28800 25200;b3lg1s74 c4tnu2w b1wkei0 d1cx860 b11jta0 d74uc20 ecixam0;"),
  ("Asia/Pyongyang",
    "30180 30600 32400;b38m42ho c1yh10c b1i2uzy0 c1f4qo0;"),
  ("Asia/Qatar",
    "12368 14400 10800;b3eqwlkg crctnrk;"),
  ("Asia/Qostanay",
    "15268 14400 18000 21600d 21600 18000d;b3h0c0nw c37a0o4 dqi27w0 e9et80 d9d1c0 c9ew00
    d9d440 c9et80 d9eys0 c9d6w0 d9d1c0 c9d1c0 d9d1c0 c9d1c0 d9d1c0 c9d1c0 d9d1c0 c9d1c0
    d9d1c0 c9d1c0 d9d1c0 c9q000 f9d1c0 b9d440 c5reo0 d3ljw0 c9d1c0 d9d1c0 c9d1c0 d9d1c0
    c9d1c0 d9d1c0 c9d1c0 d9q000 casw00 d7x6o0 casw00 d7x6o0 casw00 d7x6o0 cb5uo0 d7k800
    cb5uo0 d7k800 cb5uo0 d7x6o0 casw00 d7x6o0 casw00 d7x6o0 eb5uo0 ca37p00;"),
  ("Asia/Qyzylorda",
    "15712 14400 18000 21600d 21600 18000d;b3h0c0bk c37a10g dqi27w0 e9et80 d9d1c0 c9ew00
    d9d440 c9et80 d9eys0 c9d6w0 d9d1c0 c9d1c0 d9d1c0 c9d1c0 d9d1c0 c9d1c0 d9d1c0 c9d1c0
    d9d1c0 c9d1c0 d9d1c0 c9q000 f9d1c0 c9d440 e5rbw0 d3ljw0 c9d440 d9d1c0 c9d1c0 d9d1c0
    c9d1c0 d9d1c0 c9d1c0 d9q000 casw00 d7x6o0 casw00 d7x6o0 casw00 d7x6o0 cb5uo0 d7k800
    cb5uo0 d7k800 cb5uo0 d7x6o0 casw00 d7x6o0 casw00 d7x6o0 eb5uo0 c7dmqc0;"),
  ("Asia/Riyadh",
    "11212 10800;b3sxwx4k;"),
  ("Asia/Sakhalin",
    "34248 32400 39600 43200d 39600d 36000;b37950oo ckvnarc dikvh40 c9et80 d9d440 c9et80
    d9d440 c9et80 d9eys0 c9d6w0 d9d1c0 c9d1c0 d9d1c0 c9d1c0 d9d1c0 c9d1c0 d9d1c0 c9d1c0
    d9d1c0 c9d1c0 d9d1c0 c9q000 e9d1c0 f9d440 c5reo0 d3ljw0 c9d1c0 d9d1c0 c9d1c0 d9d1c0
    c9d1c0 d9d1c0 c9d1c0 d9q000 casw00 e7x6o0 fasys0 e7x6o0 fasw00 e7x6o0 fb5uo0 e7k800
    fb5uo0 e7k800 fb5uo0 e7x6o0 fasw00 e7x6o0 fasw00 e7x6o0 fb5uo0 e7k800 fb5uo0 e7k800
    fb5uo0 e7k800 fb5uo0 e7x6o0 fasw00 e7x6o0 fasw00 e7x6o0 fb5uo0 c7k800 f1vbzw0 cqnc40;"),
  ("Asia/Samarkand",
    "16073 14400 18000 21600d 21600;b3h0c01j c37a1ah dqi27w0 e9et80 d9d1c0 c9ew00 d9d440
    c9et80 d9eys0 c9d6w0 d9d1c0 c9d1c0 d9d1c0 c9d1c0 d9d1c0 c9d1c0 d9d1c0 c9d1c0 d9d1c0
    c9d1c0 d9d1c0 c9q000 d9d1c0 c9d1c0;"),
  ("Asia/Seoul",
    "30472 30600 32400 36000d 34200d;b38m429k c1yh18g dj07fy0 c5cik0 dae5g0 c8a2k0 dae5g0
    c8bx80 dc8tg0 c6h980 b1bj6s0 el3aq0 b6j3w0 ed2g40 b6u7w0 eb5xg0 b776k0 ebiw40 b776k0
    ebiw40 b776k0 ebiw40 b776k0 cgrs40 ddfqxi0 c7x6o0 dasw00 c7x6o0;"),
  ("Asia/Shanghai",
    "29143 28800 32400d;b34ty8mh c9jeyxj b8sl80 casbpg0 b6w2k0 c7ves0 bbxjw0 c4mqs0 b1vduk0
    cd4as0 b75bw0 ca31g0 baaak0 c9d440 b7v980 cawo40 b1dx80 cj9xpo0 b6u7w0 casys0 b7x3w0
    cb5xg0 b7k580 cb5xg0 b7x3w0 casys0 b7x3w0 casys0 b7x3w0;"),
  ("Asia/Singapore",
    "24925 25200 26400d 26400 27000 32400 28800;b374vijn ceeb94d d1kbr2o e2yhc00 f8n3jc
    e1v2p60 giy3ms0;"),
  ("Asia/Srednekolymsk",
    "36892 36000 39600 43200d 39600d 43200;b3h0bjz8 c37a0os dqi27w0 c9et80 d9d440 c9et80
    d9d440 c9et80 d9eys0 c9d6w0 d9d1c0 c9d1c0 d9d1c0 c9d1c0 d9d1c0 c9d1c0 d9d1c0 c9d1c0
    d9d1c0 c9d1c0 d9d1c0 c9q000 e9d1c0 b9d440 c5reo0 d3ljw0 c9d1c0 d9d1c0 c9d1c0 d9d1c0
    c9d1c0 d9d1c0 c9d1c0 d9q000 casw00 d7x6o0 casw00 d7x6o0 casw00 d7x6o0 cb5uo0 d7k800
    cb5uo0 d7k800 cb5uo0 d7x6o0 casw00 d7x6o0 casw00 d7x6o0 cb5uo0 d7k800 cb5uo0 d7k800
    cb5uo0 d7k800 cb5uo0 d7x6o0 casw00 d7x6o0 casw00 d7x6o0 cb5uo0 f7k800 c1vbzw0;"),
  ("Asia/Taipei",
    "29160 28800 32400 32400d;b3280ra0 clsd1m0 b45slc0 dc51c0 b75bw0 da31g0 baaak0 d9d440
    b7v980 dawo40 b7v980 dawo40 b7v980 dawo40 b7v980 d7tk40 bclmk0 d7rpg0 bb07w0 d7rpg0
    bb07w0 d7rpg0 b9et80 d9eys0 b9et80 d9d440 b9et80 d9d440 b9et80 d9d440 b9et80 dcjxg0
    b69uk0 dci2s0 b69uk0 d6its40 b9et80 d9d440 b9et80 d1yf9g0 b4qak0;"),
  ("Asia/Tashkent",
    "16631 18000 21600 25200d 21600d;b3h0bzm1 c379yxz dqi27w0 c9et80 d9d440 c9et80 d9d440
    c9et80 d9eys0 c9d6w0 d9d1c0 c9d1c0 d9d1c0 c9d1c0 d9d1c0 c9d1c0 d9d1c0 c9d1c0 d9d1c0
    c9d1c0 d9d1c0 c9q000 e9d1c0 b9d440;"),
  ("Asia/Tbilisi",
    "10751 10800 14400 18000d 14400d;b3h0c45d ch4tjyn dckinw0 c9et80 d9d440 c9et80 d9d440
    c9et80 d9eys0 c9d6w0 d9d1c0 c9d1c0 d9d1c0 c9d1c0 d9d1c0 c9d1c0 d9d1c0 c9d1c0 d9d1c0
    c9d1c0 d9d1c0 c9q000 e9d1c0 b9d440 e9cvs0 b9cyk0 e9d440 b9cyk0 e9d440 c9cyk0 d9d1c0
    c9cyk0 d9q2s0 ctivw0 d7x9g0 cast80 d7x9g0 cb5rw0 d7kas0 cb5rw0 d7kas0 cb5rw0 d7x9g0
    cast80 d7x9g0 cast80 d7x9g0 e4ofw0 b6hn40 c7k800;"),
  ("Asia/Tehran",
    "12344 12600 16200d 14400 18000d;b3mt4qx4 clsvh0w dayg00 e7z2q0 d6uao0 b51hc0 ca4uq0
    b5wvw0 c9gtg0 b9kd80 c5ja5g0 b7avw0 c9d440 b9gnw0 c9b9g0 b9gnw0 c9b9g0 b9gnw0 c9b9g0
    b9gnw0 c9b9g0 b9gnw0 c9d440 b9gnw0 c9b9g0 b9gnw0 c9b9g0 b9gnw0 c9b9g0 b9gnw0 c9d440
    b9gnw0 c9b9g0 b9gnw0 c9b9g0 b9gnw0 c9b9g0 b9gnw0 c9d440 b9gnw0 c1av440 b9gnw0 c9d440
    b9gnw0 c9b9g0 b9gnw0 c9b9g0 b9gnw0 c9b9g0 b9gnw0 c9d440 b9gnw0 c9b9g0 b9gnw0 c9b9g0
    b9gnw0 c9b9g0 b9gnw0 c9d440 b9gnw0 c9b9g0 b9gnw0 c9b9g0 b9gnw0 c9b9g0 b9gnw0 c9d440
    b9gnw0 c9b9g0 b9gnw0;"),
  ("Asia/Thimphu",
    "21516 19800 21600;b3t5tvuc ckxymno;"),
  ("Asia/Tokyo",
    "33539 32400 36000d;b2y1pks0 cvhjeo0 b6uao0 cafxc0 b8a5c0 cc8qo0 b6hc00 cc8qo0 b6hc00;"),
  ("Asia/Tomsk",
    "20391 21600 25200 28800d 25200d;b3eqdwpl c5h7z2f dqi27w0 c9et80 d9d440 c9et80 d9d440
    c9et80 d9eys0 c9d6w0 d9d1c0 c9d1c0 d9d1c0 c9d1c0 d9d1c0 c9d1c0 d9d1c0 c9d1c0 d9d1c0
    c9d1c0 d9d1c0 c9q000 e9d1c0 b9d440 c5reo0 d3ljw0 c9d1c0 d9d1c0 c9d1c0 d9d1c0 c9d1c0
    d9d1c0 c9d1c0 d9q000 casw00 d7x6o0 casw00 d7x6o0 casw00 d7x6o0 cb5uo0 d7k800 cb5uo0
    d7k800 cb5uo0 d7x6o0 e1leo0 b97k40 e7x6o0 basw00 e7x6o0 bb5uo0 e7k800 bb5uo0 e7k800
    bb5uo0 e7k800 bb5uo0 e7x6o0 basw00 e7x6o0 basw00 e7x6o0 bb5uo0 c7k800 b1vbzw0 ctw040;"),
  ("Asia/Ulaanbaatar",
    "25652 25200 28800 32400d;b3780gng c11sncck d2qk2k0 c9et80 d9eys0 c9cyk0 d9d440 c9cyk0
    d9d440 c9cyk0 d9d440 c9cyk0 d9d440 c9cyk0 d9d440 c9cyk0 d9d440 c9px80 d9d440 c9cyk0
    d9d440 c9cyk0 d9d440 c9cyk0 d9d440 c9cyk0 d9d440 c9cyk0 d9q2s0 c9cyk0 d9d440 c9cyk0
    d9d440 c9cyk0 d1ckdo0 c7x3w0 d9d440 c9cyk0 d9d440 c9cyk0 d9d440 c9cyk0 d9d440 c9cyk0
    d9d440 c9px80 d4fio40 c9ct00 d9d9o0 c9ct00;"),
  ("Asia/Urumqi",
    "21020 21600;b3ix7iw4;"),
  ("Asia/Ust-Nera",
    "34374 28800 32400 43200d 39600 39600d 36000 43200;b3eq0n96 c5hl2yu dqi27w0 e9eno0 d9d440
    e9et80 d9d440 e9et80 d9eys0 e9d6w0 d9d1c0 e9d1c0 d9d1c0 e9d1c0 d9d1c0 e9d1c0 d9d1c0
    e9d1c0 d9d1c0 e9d1c0 d9d1c0 e9q000 f9d1c0 g9d440 e5reo0 d3ljw0 e9d1c0 d9d1c0 e9d1c0
    d9d1c0 e9d1c0 d9d1c0 e9d1c0 d9q000 easw00 d7x6o0 easw00 d7x6o0 easw00 d7x6o0 eb5uo0
    d7k800 eb5uo0 d7k800 eb5uo0 d7x6o0 easw00 d7x6o0 easw00 d7x6o0 eb5uo0 d7k800 eb5uo0
    d7k800 eb5uo0 d7k800 eb5uo0 d7x6o0 easw00 d7x6o0 easw00 d7x6o0 eb5uo0 h7k800 e8ql00
    g1mlho0;"),
  ("Asia/Vladivostok",
    "31651 32400 36000 39600d 36000d 39600;b3g8us0t c3yqvf7 dqi27w0 c9et80 d9d440 c9et80
    d9d440 c9et80 d9eys0 c9d6w0 d9d1c0 c9d1c0 d9d1c0 c9d1c0 d9d1c0 c9d1c0 d9d1c0 c9d1c0
    d9d1c0 c9d1c0 d9d1c0 c9q000 e9d1c0 b9d440 c5reo0 d3ljw0 c9d1c0 d9d1c0 c9d1c0 d9d1c0
    c9d1c0 d9d1c0 c9d1c0 d9q000 casw00 d7x6o0 casw00 d7x6o0 casw00 d7x6o0 cb5uo0 d7k800
    cb5uo0 d7k800 cb5uo0 d7x6o0 casw00 d7x6o0 casw00 d7x6o0 cb5uo0 d7k800 cb5uo0 d7k800
    cb5uo0 d7k800 cb5uo0 d7x6o0 casw00 d7x6o0 casw00 d7x6o0 cb5uo0 f7k800 c1vbzw0;"),
  ("Asia/Yakutsk",
    "31138 28800 32400 36000d 32400d 36000;b3eq0pr2 c5hl0gy dqi27w0 c9et80 d9d440 c9et80
    d9d440 c9et80 d9eys0 c9d6w0 d9d1c0 c9d1c0 d9d1c0 c9d1c0 d9d1c0 c9d1c0 d9d1c0 c9d1c0
    d9d1c0 c9d1c0 d9d1c0 c9q000 e9d1c0 b9d440 c5reo0 d3ljw0 c9d1c0 d9d1c0 c9d1c0 d9d1c0
    c9d1c0 d9d1c0 c9d1c0 d9q000 casw00 d7x6o0 casw00 d7x6o0 casw00 d7x6o0 cb5uo0 d7k800
    cb5uo0 d7k800 cb5uo0 d7x6o0 casw00 d7x6o0 casw00 d7x6o0 cb5uo0 d7k800 cb5uo0 d7k800
    cb5uo0 d7k800 cb5uo0 d7x6o0 casw00 d7x6o0 casw00 d7x6o0 cb5uo0 f7k800 c1vbzw0;"),
  ("Asia/Yangon",
    "23087 23400 32400;b3eqwdap cbnjp3b b1kh520;"),
  ("Asia/Yekaterinburg",
    "14553 13505 14400 18000 21600d 18000d 21600;b3cx7qjr c1kybx4 d5pfyv5 eqi27w0 d9et80
    e9d440 d9et80 e9d440 d9et80 e9eys0 d9d6w0 e9d1c0 d9d1c0 e9d1c0 d9d1c0 e9d1c0 d9d1c0
    e9d1c0 d9d1c0 e9d1c0 d9d1c0 e9d1c0 d9q000 f9d1c0 c9d440 d5reo0 e3ljw0 d9d1c0 e9d1c0
    d9d1c0 e9d1c0 d9d1c0 e9d1c0 d9d1c0 e9q000 dasw00 e7x6o0 dasw00 e7x6o0 dasw00 e7x6o0
    db5uo0 e7k800 db5uo0 e7k800 db5uo0 e7x6o0 dasw00 e7x6o0 dasw00 e7x6o0 db5uo0 e7k800
    db5uo0 e7k800 db5uo0 e7k800 db5uo0 e7x6o0 dasw00 e7x6o0 dasw00 e7x6o0 db5uo0 g7k800
    d1vbzw0;"),
  ("Asia/Yerevan",
    "10680 10800 14400 18000d 14400d;b3h0c47c ch4tjwo dckinw0 c9et80 d9d440 c9et80 d9d440
    c9et80 d9eys0 c9d6w0 d9d1c0 c9d1c0 d9d1c0 c9d1c0 d9d1c0 c9d1c0 d9d1c0 c9d1c0 d9d1c0
    c9d1c0 d9d1c0 c9q000 e9d1c0 b9d440 e9d1c0 b9d1c0 e9d1c0 b9d1c0 e9d1c0 b9d1c0 e9d1c0
    c9d1c0 dsfzw0 casw00 d7x6o0 casw00 d7x6o0 cb5uo0 d7k800 cb5uo0 d7k800 cb5uo0 d7x6o0
    casw00 d7x6o0 casw00 d7x6o0 cb5uo0 d7k800 cb5uo0 d7k800 cb5uo0 d7k800 cb5uo0 d7x6o0
    casw00 d7x6o0 casw00 d7x6o0 cb5uo0 d7k800 cb5uo0;")]

end Playbook.Zone.Table
