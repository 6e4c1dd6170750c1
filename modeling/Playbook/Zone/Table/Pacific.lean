/-!
# Playbook.Zone.Table.Pacific

The histories of the zones whose names start with `Pacific`, in the form of
`Playbook.Zone.History`.
-/

namespace Playbook.Zone.Table

/-- Names of zones with their histories. -/
def pacific : List (String × String) := [
  ("Pacific/Apia",
    "45184 -41216 -41400 -39600 -36000d 50400d 46800;b30efaww c9nfeo0 dkcrmt4 evp3la0 d9odo0
    e902o0 f4zbk0 g4qog0 f9d1c0 g9q000 f902o0 g9q000 f902o0 g9q000 f902o0 g9q000 f902o0
    g9q000 f902o0 g9q000 f9d1c0 g9q000 f902o0 g9q000 f902o0 g9q000;"),
  ("Pacific/Auckland",
    "41944 41400 45000d 43200d 43200 46800d;b2o1o9ew cusn9z4 b64ak0 dbiw40 b7x5a0 dasxe0
    b7x5a0 dasxe0 b7x5a0 dasxe0 b8a3y0 dafyq0 b8a3y0 dafyq0 bafvy0 d7x820 basum0 d7x820
    basum0 d7x820 basum0 d7x820 basum0 d7x820 bb5ta0 d7k9e0 bb5ta0 d7x820 e2qrd20 ff1tpk0
    e5reo0 fclpc0 e6uao0 fc8qo0 e6hc00 fc8qo0 e6hc00 fc8qo0 e6hc00 fc8qo0 e6hc00 fc8qo0
    e6hc00 fc8qo0 e6uao0 fc8qo0 e6hc00 fc8qo0 e6hc00 fc8qo0 e6hc00 fc8qo0 e6hc00 fc8qo0
    e6hc00 fc8qo0 e6uao0 fc8qo0 e6hc00 fb5uo0 e8a5c0 fafxc0 e8a5c0 fafxc0 e8a5c0 fafxc0
    e8n400 fa2yo0 e8n400 fa2yo0 e8n400 fa2yo0 e8n400 fafxc0 e8a5c0 fafxc0 e8a5c0 fafxc0
    e8n400 fa2yo0 e8n400 fa2yo0 e8n400 fafxc0 e8a5c0 fafxc0 e8a5c0 fafxc0 e8n400 fa2yo0
    e8n400 fa2yo0 e8n400 fa2yo0 e8n400 fa2yo0;2008 f9.5.0/7200 e4.1.0/10800"),
  ("Pacific/Bougainville",
    "37336 35312 36000 32400 39600;b2tvecyw c7tuc88 dosc24w c1n05g0 e1071c40;"),
  ("Pacific/Chatham",
    "44028 44100 45900 49500d;b2o1o7t0 c149qqm0 df1tq90 c5reo0 dclpc0 c6uao0 dc8qo0 c6hc00
    dc8qo0 c6hc00 dc8qo0 c6hc00 dc8qo0 c6hc00 dc8qo0 c6hc00 dc8qo0 c6uao0 dc8qo0 c6hc00
    dc8qo0 c6hc00 dc8qo0 c6hc00 dc8qo0 c6hc00 dc8qo0 c6hc00 dc8qo0 c6uao0 dc8qo0 c6hc00
    db5uo0 c8a5c0 dafxc0 c8a5c0 dafxc0 c8a5c0 dafxc0 c8n400 da2yo0 c8n400 da2yo0 c8n400
    da2yo0 c8n400 dafxc0 c8a5c0 dafxc0 c8a5c0 dafxc0 c8n400 da2yo0 c8n400 da2yo0 c8n400
    dafxc0 c8a5c0 dafxc0 c8a5c0 dafxc0 c8n400 da2yo0 c8n400 da2yo0 c8n400 da2yo0 c8n400
    da2yo0;2008 d9.5.0/9900 c4.1.0/13500"),
  ("Pacific/Easter",
    "-26248 -25200 -21600d -21600 -18000d;b3lcxy14 civmeuw b7k580 cc8tg0 b6h980 ca31g0 b7x3w0
    casys0 b7x3w0 cb5xg0 b7k580 cag040 b8a2k0 cb5xg0 b7k580 cb5xg0 b7x3w0 casys0 b7x3w0
    casys0 b7x3w0 cb5xg0 b7k580 cb5xg0 b7k580 cb5xg0 b7x3w0 casys0 d7x3w0 easys0 d7x3w0
    easys0 d7x3w0 eb5xg0 d7k580 eb5xg0 d7k580 eb5xg0 d9cyk0 e9d440 d7x3w0 easys0 d7x3w0
    eb5xg0 d7k580 e9q2s0 d8zzw0 eb5xg0 d7x3w0 easys0 d7x3w0 easys0 d7x3w0 easys0 d7x3w0
    eb5xg0 d7k580 eb5xg0 d8n180 ea31g0 d7x3w0 ea31g0 d9px80 e9q2s0 d7x3w0 eb5xg0 d7k580
    eb5xg0 d7k580 eb5xg0 d7k580 eb5xg0 d7x3w0 easys0 d7x3w0 easys0 d7x3w0 eb5xg0 d7k580
    eb5xg0 d8n180 ea31g0 d7x3w0 easys0 d8zzw0 e9q2s0 dast80 e5eis0 dcyl80 e6hes0 dc8nw0
    e6udg0 dbvp80 e6udg0 dvonw0 e4olg0 de1h80 e4olg0 de1h80 e4olg0 dc8nw0 e7x9g0 dast80
    e7x9g0 dast80 e7x9g0 dast80 e8a840;2023 e9.1.6/79200 d4.1.6/79200"),
  ("Pacific/Efate",
    "40396 39600 43200d;b3al73xw cwbu364 b51hc0 c4y8qs0 b9cyk0 c9d440 b9cyk0 c9q2s0 b8zzw0
    c9q2s0 b9cyk0 c9d440 b9cyk0 c9d440 b9cyk0 c9d440 b9cyk0 c9d440 b9cyk0 c9q2s0 b64ak0
    ce1ms0 b4ofw0;"),
  ("Pacific/Fakaofo",
    "-41096 -39600 46800;b34tzqtk c1lxe1ig;"),
  ("Pacific/Fiji",
    "42944 43200 46800d;b3ckabb4 c17bs00w b64dc0 ccyo00 b5reo0 c53a5c0 b64dc0 casw00 b6uao0
    cbvs00 b4oio0 ce1k00 b4oio0 ceeio0 b4bh80 cerk40 b3ylc0 cerhc0 b3ylc0 cf4g00 b3lmo0
    cf4g00 b3lmo0 cf4g00 b3lmo0 cfheo0 b38o00 chn6o0 b1fuo0;"),
  ("Pacific/Galapagos",
    "-21504 -18000 -21600 -18000d;b3khm2dc cspdryo d3lsas0 c3jp80;"),
  ("Pacific/Gambier",
    "-32388 -32400;b3aypuro;"),
  ("Pacific/Guadalcanal",
    "38388 39600;b3ayoc5o;"),
  ("Pacific/Guam",
    "-51660 34740 36000 32400 39600d;b2blu6z0 ct83xc0 dld6pp0 c1dl9g0 e7s1k40 ctxp80 e3frms0
    cqdrpo e7kgac c3ljw0 ec8tg0 c6u7w0 ebvus0 c6u7w0 e16uo40 c3ljw0 e16aas0 c4ivxo ecls2c
    c6h980;"),
  ("Pacific/Honolulu",
    "-37886 -37800 -34200d -36000;b328pcce cjgnatm b13l00 c4jvb00 b1wd180 dvotg0;"),
  ("Pacific/Kanton",
    "0 -43200 -39600 46800;b3nyt0g0 clypqo0 d7yiqk0;"),
  ("Pacific/Kiritimati",
    "-37760 -38400 -36000 50400;b34tzo8w c153iz5s d7yirhc;"),
  ("Pacific/Kosrae",
    "-47284 39116 39600 32400 36000 43200;b2blu3lg ct83xc0 d76a4yk c29hhk0 e9cmd40 d27sas0
    c29fk40 fcm2540 cf9l3w0;"),
  ("Pacific/Kwajalein",
    "40160 39600 36000 32400 -43200 43200;b34ty04g cise0fk d27sas0 b1hjus0 eddxug0 fcgv6k0;"),
  ("Pacific/Marquesas",
    "-33480 -34200;b3aypvm0;"),
  ("Pacific/Nauru",
    "40060 41400 32400 43200;b3fafpj8 cba66ys b1kwca0 dhfzda0;"),
  ("Pacific/Niue",
    "-40780 -40800 -39600;b3vv1d8s c63yiok;"),
  ("Pacific/Norfolk",
    "40312 40320 41400 45000d 39600 43200d;b34ty008 cq3eins dcfj8q0 c6hc00 el6nk00
    f239aq0;2020 f10.1.0/7200 e4.1.0/10800"),
  ("Pacific/Noumea",
    "39948 39600 43200d;b3al74ac cye0ixo b4dbw0 cecqs0 b4f6k0 c99p700 b4oio0;"),
  ("Pacific/Pago_Pago",
    "45432 -40968 -39600;b30efaq0 c9nfeo0;"),
  ("Pacific/Palau",
    "-54124 32276 32400;b2blu8vg ct83xc0;"),
  ("Pacific/Pitcairn",
    "-31220 -30600 -28800;b34tzj78 c1esg26s;"),
  ("Pacific/Port_Moresby",
    "35320 35312 36000;b2tveeiw c7tuao8;"),
  ("Pacific/Rarotonga",
    "48056 -38344 -37800 -34200d -36000;b34ausp4 crk6io0 ddlv68w e5rbw0 dc8s20 e6ham0 dc8s20
    e6ham0 dc8s20 e6u9a0 dc8s20 e6ham0 dc8s20 e6ham0 dc8s20 e6ham0 dc8s20 e6ham0 dc8s20
    e6ham0 dc8s20 e6u9a0 dc8s20 e6ham0 dc8s20 e6ham0 dc8s20 e6ham0;"),
  ("Pacific/Tahiti",
    "-35896 -36000;b3aypxh4;"),
  ("Pacific/Tarawa",
    "41524 43200;b34txz2k;"),
  ("Pacific/Tongatapu",
    "44352 44400 46800 50400d;b3s5low0 c7znjyo dk8amdc c8fpc0 dbvs00 c4bh80 deelg0 c4bh80
    d7pmis0 c3lmo0;")]

end Playbook.Zone.Table
